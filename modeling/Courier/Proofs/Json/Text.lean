import Courier.Json.Document
import Courier.Json.Printer

/-
  Texts in JSON, written and read back.

  Key theorems include:
    * `Json.foldlM_quoted`
    * `Json.read?_text`
-/

------------------------------------------------------------
-- Characters
------------------------------------------------------------

namespace Courier

namespace Json

/- A hexadecimal digit is read back. -/
theorem hexValue?_hexDigit :
    ∀ n, n < 16 →
      Bytes.hexValue? (Bytes.hexDigit n) = some n := by
  decide

/- A whole text so far, to which a character is added. -/
private theorem push_sound
    (chars : List Char)
    (c : Char) :
    Quotation.push ⟨chars, true, none⟩ c =
      ⟨c :: chars, true, none⟩ :=
  rfl

/- Four hexadecimal digits add a character below the blank. -/
theorem foldlM_hexDigits
    (tokens : List Token)
    (chars : List Char)
    {c : Char}
    (hControl : c.toNat < 32) :
    ['\\', 'u', '0', '0', Bytes.hexDigit (c.toNat / 16),
        Bytes.hexDigit (c.toNat % 16)].foldlM scanStep
        ⟨tokens, .text ⟨chars, true, none⟩⟩ =
      some ⟨tokens, .text ⟨c :: chars, true, none⟩⟩ := by
  have hHigh :=
    hexValue?_hexDigit (c.toNat / 16) (by omega)
  have hLow :=
    hexValue?_hexDigit (c.toNat % 16) (by omega)
  have hZero : Bytes.hexValue? '0' = some 0 := rfl
  have hValue :
      c.toNat / 16 * 16 + c.toNat % 16 = c.toNat := by
    omega
  have hUnit :
      Quotation.pushUnit ⟨chars, true, none⟩ c.toNat =
        ⟨c :: chars, true, none⟩ := by
    unfold Quotation.pushUnit
    rw [if_neg (by omega), if_neg (by omega),
      Char.ofNat_toNat]
    rfl
  simp [scanStep, hHigh, hLow, hZero, hValue, hUnit]

/- The form of a character adds that character. -/
theorem foldlM_escape
    (tokens : List Token)
    (chars : List Char)
    (c : Char) :
    (escape c).foldlM scanStep
        ⟨tokens, .text ⟨chars, true, none⟩⟩ =
      some ⟨tokens, .text ⟨c :: chars, true, none⟩⟩ := by
  unfold escape
  split
  · next hQuote =>
      subst hQuote
      rfl
  split
  · next _ hSlash =>
      subst hSlash
      rfl
  split
  · next hBack =>
      have hChar : c = '\x08' := Char.toNat_inj.mp hBack
      subst hChar
      rfl
  split
  · next hFeed =>
      have hChar : c = '\x0c' := Char.toNat_inj.mp hFeed
      subst hChar
      rfl
  split
  · next hLine =>
      subst hLine
      rfl
  split
  · next hReturn =>
      subst hReturn
      rfl
  split
  · next hTab =>
      subst hTab
      rfl
  split
  · next hControl =>
      exact foldlM_hexDigits tokens chars hControl
  · next hQuote hSlash _ _ _ _ _ hControl =>
      simp [scanStep, hQuote, hSlash, hControl, push_sound]

/- The form of a text adds all its characters. -/
theorem foldlM_flatMap_escape
    (tokens : List Token)
    (chars text : List Char) :
    (text.flatMap escape).foldlM scanStep
        ⟨tokens, .text ⟨chars, true, none⟩⟩ =
      some
        ⟨tokens,
          .text ⟨text.reverse ++ chars, true, none⟩⟩ := by
  induction text generalizing chars with
  | nil => rfl
  | cons c text ih =>
      rw [List.flatMap_cons, List.foldlM_append,
        foldlM_escape]
      simp only [Option.bind_eq_bind, Option.bind_some, ih]
      simp

/- A text between quotation marks is one token. -/
theorem foldlM_quoted
    (tokens : List Token)
    (text : String) :
    (quoted text).foldlM scanStep ⟨tokens, .between⟩ =
      some ⟨.text (some text) :: tokens, .between⟩ := by
  have hStart :
      scanStep ⟨tokens, .between⟩ '"' =
        some ⟨tokens, .text ⟨[], true, none⟩⟩ := rfl
  have hEnd :
      scanStep
          ⟨tokens, .text ⟨text.toList.reverse, true, none⟩⟩
          '"' =
        some ⟨.text (some text) :: tokens, .between⟩ := by
    simp [scanStep, Quotation.token]
  unfold quoted
  rw [List.cons_append, List.foldlM_cons, hStart]
  simp only [Option.bind_eq_bind, Option.bind_some]
  rw [List.foldlM_append, foldlM_flatMap_escape]
  simp only [Option.bind_eq_bind, Option.bind_some,
    List.append_nil, List.foldlM_cons, hEnd]
  rfl

end Json

end Courier

------------------------------------------------------------
-- Values
------------------------------------------------------------

namespace Courier

namespace Json

/- A text is read back from its JSON form. -/
theorem read?_text
    (text : String) :
    read? (Json.text text).chars = some (.text text) := by
  have hTokens :
      tokens? (Json.text text).chars =
        some [.text (some text)] := by
    rw [chars, tokens?, foldlM_quoted]
    rfl
  rw [read?, Document.read?, hTokens]
  rfl

end Json

end Courier
