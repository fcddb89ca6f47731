import Courier.Proofs.Json.Text
import Courier.Proofs.Text.Numeral
import Mathlib.Tactic.FinCases
import Mathlib.Tactic.IntervalCases

/-
  Objects in JSON, written and read back.

  A number is known to end only when the character after it
  is seen.  So the form of a value is followed by a sign
  that ends it, and the machine takes its tokens whatever
  frames are open.

  Key definitions include:
    * `Json.Spells`
    * `Document.Builds`
    * `Json.Forms`

  Key theorems include:
    * `Json.forms_text`
    * `Json.forms_ofInt`
    * `Json.read?_renderMembers`
-/

------------------------------------------------------------
-- Tokens of a Value
------------------------------------------------------------

namespace Courier

namespace Json

/- The character ends whatever value stands before it. -/
def isStop
    (c : Char) : Bool :=
  c == ',' || c == ']' || c == '\x7d'

/- In front of a stop the characters are these tokens. -/
def Spells
    (chars : List Char)
    (tokens : List Token) : Prop :=
  ∀ before c rest,
    isStop c = true →
      (chars ++ c :: rest).foldlM scanStep
          ⟨before, .between⟩ =
        (c :: rest).foldlM scanStep
          ⟨tokens.reverse ++ before, .between⟩

/- A text is one token. -/
theorem spells_quoted
    (text : String) :
    Spells (quoted text) [.text (some text)] := by
  intro before c rest hStop
  rw [List.foldlM_append, foldlM_quoted]
  rfl

/- The name of a member and its value. -/
theorem spells_member
    (name : String)
    {chars : List Char}
    {tokens : List Token}
    (hValue : Spells chars tokens) :
    Spells (quoted name ++ ':' :: chars)
      (.text (some name) :: .colon :: tokens) := by
  intro before c rest hStop
  have hColon :
      scanStep ⟨.text (some name) :: before, .between⟩ ':' =
        some
          ⟨.colon :: .text (some name) :: before,
            .between⟩ := rfl
  rw [List.append_assoc, List.foldlM_append, foldlM_quoted,
    List.cons_append]
  simp only [Option.bind_eq_bind, Option.bind_some,
    List.foldlM_cons, hColon]
  rw [hValue _ c rest hStop]
  simp

/- Values with commas between them. -/
theorem spells_intercalate
    {α : Type}
    {chars : α → List Char}
    {tokens : α → List Token}
    {all : List α}
    (hAll : ∀ a ∈ all, Spells (chars a) (tokens a)) :
    Spells (List.intercalate [','] (all.map chars))
      (List.intercalate [.comma] (all.map tokens)) := by
  induction all with
  | nil =>
      intro before c rest hStop
      rfl
  | cons a others ih =>
      have hFirst := hAll a List.mem_cons_self
      have hOthers :
          ∀ b ∈ others, Spells (chars b) (tokens b) :=
        fun b hMem => hAll b (List.mem_cons_of_mem a hMem)
      cases others with
      | nil => simpa using hFirst
      | cons b more =>
          intro before c rest hStop
          have hComma (tokens : List Token) :
              scanStep ⟨tokens, .between⟩ ',' =
                some ⟨.comma :: tokens, .between⟩ := rfl
          simp only [List.map_cons,
            List.intercalate_cons_cons,
            List.append_assoc, List.cons_append,
            List.nil_append]
          rw [hFirst before ',' _ rfl, List.foldlM_cons,
            hComma]
          simp only [Option.bind_eq_bind, Option.bind_some]
          have hRest :=
            ih hOthers
              (.comma :: ((tokens a).reverse ++ before)) c
              rest hStop
          simp only [List.map_cons] at hRest
          rw [hRest]
          simp

/- The tokens of the text of an object. -/
theorem tokens?_object
    {chars : List Char}
    {tokens : List Token}
    (hInner : Spells chars tokens) :
    tokens? ('\x7b' :: chars ++ ['\x7d']) =
      some (.openObject :: tokens ++ [.closeObject]) := by
  have hOpen :
      scanStep ⟨[], .between⟩ '\x7b' =
        some ⟨[.openObject], .between⟩ := rfl
  have hClose (before : List Token) :
      scanStep ⟨before, .between⟩ '\x7d' =
        some ⟨.closeObject :: before, .between⟩ := rfl
  rw [tokens?, List.cons_append, List.foldlM_cons, hOpen]
  simp only [Option.bind_eq_bind, Option.bind_some]
  rw [hInner _ _ [] rfl]
  simp only [List.foldlM_cons, hClose, Option.bind_eq_bind,
    Option.bind_some, List.foldlM_nil]
  simp

end Json

end Courier

------------------------------------------------------------
-- Documents of Tokens
------------------------------------------------------------

namespace Courier

namespace Document

/-
  Where a value may start, the tokens complete the document,
  whatever frames are open.
-/
def Builds
    (tokens : List Json.Token)
    (d : Document) : Prop :=
  ∀ frames rest,
    (tokens ++ rest).foldlM step ⟨frames, .value⟩ =
      rest.foldlM step (Machine.complete frames d)

/- A document of one token. -/
theorem builds_singleton
    {token : Json.Token}
    {d : Document}
    (hBegin :
      ∀ frames,
        Machine.begin? frames token =
          some (Machine.complete frames d)) :
    Builds [token] d := by
  intro frames rest
  simp only [List.singleton_append, List.foldlM_cons, step,
    hBegin, Option.bind_eq_bind, Option.bind_some]

/- The name and the value of a member. -/
theorem foldlM_member
    {tokens : List Json.Token}
    {d : Document}
    (name : String)
    (members : List (Option String × Document))
    (frames : List Frame)
    (rest : List Json.Token)
    {expect : Expect}
    (hExpect : expect = .name ∨ expect = .nameOrClose)
    (hBuilds : Builds tokens d) :
    (.text (some name) :: .colon :: tokens ++ rest).foldlM
        step ⟨.object members none :: frames, expect⟩ =
      rest.foldlM step
        ⟨.object ((some name, d) :: members) none :: frames,
          .commaOrClose⟩ := by
  have hName :
      step ⟨.object members none :: frames, expect⟩
          (.text (some name)) =
        some
          ⟨.object members (some name) :: frames,
            .colon⟩ := by
    rcases hExpect with rfl | rfl
    · rfl
    · rfl
  have hColon (m : List Frame) :
      step ⟨m, .colon⟩ .colon = some ⟨m, .value⟩ := rfl
  simp only [List.cons_append, List.foldlM_cons, hName,
    hColon, Option.bind_eq_bind, Option.bind_some]
  rw [hBuilds]
  rfl

/- Members with commas between them. -/
theorem foldlM_members
    {α : Type}
    {tokens : α → List Json.Token}
    {d : α → Document}
    {all : List α}
    (name : α → String)
    (members : List (Option String × Document))
    (frames : List Frame)
    (rest : List Json.Token)
    {expect : Expect}
    (hExpect : expect = .name ∨ expect = .nameOrClose)
    (hSome : all ≠ [])
    (hAll : ∀ a ∈ all, Builds (tokens a) (d a)) :
    (List.intercalate [.comma]
          (all.map fun a =>
            .text (some (name a)) :: .colon :: tokens a) ++
        rest).foldlM step
        ⟨.object members none :: frames, expect⟩ =
      rest.foldlM step
        ⟨.object
            ((all.map fun a => (some (name a), d a)).reverse ++
              members)
            none :: frames,
          .commaOrClose⟩ := by
  induction all generalizing members expect with
  | nil => exact absurd rfl hSome
  | cons a others ih =>
      have hFirst := hAll a List.mem_cons_self
      have hOthers :
          ∀ b ∈ others, Builds (tokens b) (d b) :=
        fun b hMem => hAll b (List.mem_cons_of_mem a hMem)
      cases others with
      | nil =>
          have hOne :=
            foldlM_member (name a) members frames rest hExpect
              hFirst
          simp only [List.map_cons, List.map_nil,
            List.intercalate_singleton]
          exact hOne
      | cons b more =>
          have hComma
              (members : List (Option String × Document)) :
              step
                  ⟨.object members none :: frames,
                    .commaOrClose⟩ .comma =
                some
                  ⟨.object members none :: frames, .name⟩ :=
            rfl
          have hRest :=
            ih ((some (name a), d a) :: members) (Or.inl rfl)
              (List.cons_ne_nil b more) hOthers
          simp only [List.map_cons] at hRest ⊢
          rw [List.intercalate_cons_cons, List.append_assoc,
            List.append_assoc,
            foldlM_member (name a) members frames _ hExpect
              hFirst,
            List.singleton_append, List.foldlM_cons, hComma]
          simp only [Option.bind_eq_bind, Option.bind_some]
          rw [hRest]
          simp

end Document

end Courier

------------------------------------------------------------
-- Numbers
------------------------------------------------------------

namespace Courier

/- A whole number as it is written. -/
def Decimal.ofInt : Int → Decimal
  | .ofNat n =>
      { negative := false
        whole := (toString n).toList
        fraction := []
        power := none }
  | .negSucc n =>
      { negative := true
        whole := (toString (n + 1)).toList
        fraction := []
        power := none }

namespace Json

/- A number of more than one digit does not start with zero. -/
theorem head_toString
    {n : Nat}
    {c : Char}
    {rest : List Char}
    (hDigits : (toString n).toList = c :: rest) :
    c ≠ '0' ∨ (n = 0 ∧ rest = []) := by
  rw [Nat.toString_eq_repr, Nat.toList_repr] at hDigits
  induction n using Nat.strongRecOn generalizing rest with
  | _ n ih =>
      rw [Nat.toDigits_eq_if (by decide)] at hDigits
      split at hDigits
      · next hSmall =>
          rw [List.cons.injEq] at hDigits
          rcases hDigits with ⟨rfl, rfl⟩
          have hDigit :
              ∀ d, d < 10 →
                d.digitChar ≠ '0' ∨ d = 0 := by
            decide
          rcases hDigit n hSmall with hOther | hZero
          · exact Or.inl hOther
          · exact Or.inr ⟨hZero, rfl⟩
      · next hLarge =>
          cases hFront : Nat.toDigits 10 (n / 10) with
          | nil => exact absurd hFront Nat.toDigits_ne_nil
          | cons d front =>
              rw [hFront, List.cons_append,
                List.cons.injEq] at hDigits
              rcases hDigits with ⟨rfl, -⟩
              rcases ih (n / 10) (by omega) hFront with
                hOther | ⟨hZero, -⟩
              · exact Or.inl hOther
              · omega

/- More digits of a number. -/
theorem foldlM_digits
    {digits : List Char}
    (tokens : List Token)
    (d : Digits)
    (hDigits : ∀ c ∈ digits, Numeral.isDigit c = true) :
    digits.foldlM scanStep ⟨tokens, .number .whole d⟩ =
      some
        ⟨tokens,
          .number .whole
            { d with
              whole := digits.reverse ++ d.whole }⟩ := by
  induction digits generalizing d with
  | nil => rfl
  | cons c digits ih =>
      have hDigit := hDigits c List.mem_cons_self
      have hStep :
          scanStep ⟨tokens, .number .whole d⟩ c =
            some
              ⟨tokens,
                .number .whole
                  { d with whole := c :: d.whole }⟩ := by
        simp only [scanStep, Digits.step, hDigit, if_true]
      rw [List.foldlM_cons, hStep]
      simp only [Option.bind_eq_bind, Option.bind_some]
      rw [ih _ fun e hMem =>
        hDigits e (List.mem_cons_of_mem c hMem)]
      simp

/- The digits of a number before the scanner has ended it. -/
def written
    (negative : Bool)
    (digits : List Char) : Digits :=
  { negative := negative
    whole := digits.reverse
    fraction := []
    down := false
    power := [] }

/- A number ends at a stop. -/
theorem scanStep_stop
    {place : Place}
    {c : Char}
    (before : List Token)
    (negative : Bool)
    (digits : List Char)
    (hPlace : place = .zero ∨ place = .whole)
    (hStop : isStop c = true) :
    scanStep
        ⟨before, .number place (written negative digits)⟩ c =
      scanStep
        ⟨.number
            { negative := negative
              whole := digits
              fraction := []
              power := none } :: before,
          .between⟩ c := by
  have hToken :
      Digits.token? place (written negative digits) =
        some
          (.number
            { negative := negative
              whole := digits
              fraction := []
              power := none }) := by
    rcases hPlace with rfl | rfl
    · simp [Digits.token?, written]
    · simp [Digits.token?, written]
  have hEnd :
      Digits.step place (written negative digits) c =
        some none := by
    simp only [isStop, Bool.or_eq_true, beq_iff_eq] at hStop
    rcases hPlace with rfl | rfl
    · rcases hStop with (rfl | rfl) | rfl
      · rfl
      · rfl
      · rfl
    · rcases hStop with (rfl | rfl) | rfl
      · rfl
      · rfl
      · rfl
  simp only [scanStep, hEnd, hToken]

/- The ten digits. -/
theorem mem_of_isDigit
    {c : Char}
    (hDigit : Numeral.isDigit c = true) :
    c ∈ ['0', '1', '2', '3', '4', '5', '6', '7', '8', '9'] := by
  simp only [Numeral.isDigit, Bool.and_eq_true,
    decide_eq_true_eq] at hDigit
  have hLow : 48 ≤ c.toNat := hDigit.1
  have hHigh : c.toNat ≤ 57 := hDigit.2
  have hAll :
      ∀ n, 48 ≤ n → n ≤ 57 →
        Char.ofNat n ∈
          ['0', '1', '2', '3', '4', '5', '6', '7', '8',
            '9'] := by
    intro n hLow hHigh
    interval_cases n <;> decide
  have hMem := hAll c.toNat hLow hHigh
  rwa [Char.ofNat_toNat] at hMem

/- After its first digit a number goes on to its end. -/
theorem foldlM_number
    {n : Nat}
    {c d : Char}
    {digits : List Char}
    (before : List Token)
    (negative : Bool)
    (rest : List Char)
    (hDigits : (toString n).toList = d :: digits)
    (hStop : isStop c = true) :
    (digits ++ c :: rest).foldlM scanStep
        ⟨before,
          .number (if d = '0' then .zero else .whole)
            (written negative [d])⟩ =
      (c :: rest).foldlM scanStep
        ⟨.number
            { negative := negative
              whole := (toString n).toList
              fraction := []
              power := none } :: before,
          .between⟩ := by
  by_cases hZero : d = '0'
  · rcases head_toString hDigits with hOther | ⟨-, rfl⟩
    · exact absurd hZero hOther
    · rw [if_pos hZero, List.nil_append, List.foldlM_cons,
        scanStep_stop before negative _ (Or.inl rfl) hStop,
        ← hDigits, List.foldlM_cons]
  · have hAll :
        ∀ e ∈ digits, Numeral.isDigit e = true := by
      intro e hMem
      apply Numeral.isDigit_of_mem_toString (n := n)
      rw [hDigits]
      exact List.mem_cons_of_mem d hMem
    have hWritten :
        { written negative [d] with
          whole :=
            digits.reverse ++ (written negative [d]).whole } =
          written negative (d :: digits) := by
      simp [written]
    rw [if_neg hZero, List.foldlM_append,
      foldlM_digits before _ hAll, hWritten]
    simp only [Option.bind_eq_bind, Option.bind_some]
    rw [List.foldlM_cons,
      scanStep_stop before negative _ (Or.inr rfl) hStop,
      ← hDigits, List.foldlM_cons]

/- Where a first digit may stand, a number may stand. -/
theorem foldlM_natural
    {before : List Token}
    {negative : Bool}
    {start : Scanned}
    {c : Char}
    (n : Nat)
    (rest : List Char)
    (hStart :
      ∀ d, Numeral.isDigit d = true →
        scanStep start d =
          some
            ⟨before,
              .number (if d = '0' then .zero else .whole)
                (written negative [d])⟩)
    (hStop : isStop c = true) :
    ((toString n).toList ++ c :: rest).foldlM scanStep start =
      (c :: rest).foldlM scanStep
        ⟨.number
            { negative := negative
              whole := (toString n).toList
              fraction := []
              power := none } :: before,
          .between⟩ := by
  cases hDigits : (toString n).toList with
  | nil => exact absurd hDigits (Numeral.toString_ne_nil n)
  | cons d digits =>
      have hDigit : Numeral.isDigit d = true := by
        apply Numeral.isDigit_of_mem_toString (n := n)
        rw [hDigits]
        exact List.mem_cons_self
      rw [List.cons_append, List.foldlM_cons, hStart d hDigit]
      simp only [Option.bind_eq_bind, Option.bind_some]
      rw [foldlM_number before negative rest hDigits hStop,
        hDigits]

/- A whole number is one token. -/
theorem spells_ofInt
    (n : Int) :
    Spells (ofInt n).chars [.number (Decimal.ofInt n)] := by
  intro before c rest hStop
  cases n with
  | ofNat n =>
      have hChars :
          (ofInt (Int.ofNat n)).chars = (toString n).toList :=
        rfl
      have hStart :
          ∀ d, Numeral.isDigit d = true →
            scanStep ⟨before, .between⟩ d =
              some
                ⟨before,
                  .number (if d = '0' then .zero else .whole)
                    (written false [d])⟩ := by
        intro d hDigit
        have hMem := mem_of_isDigit hDigit
        fin_cases hMem <;> rfl
      rw [hChars, foldlM_natural n rest hStart hStop]
      rfl
  | negSucc n =>
      have hChars :
          (ofInt (Int.negSucc n)).chars =
            '-' :: (toString (n + 1)).toList := by
        show ("-" ++ toString (n + 1)).toList = _
        rw [String.toList_append]
        rfl
      have hMinus :
          scanStep ⟨before, .between⟩ '-' =
            some ⟨before, .number .sign (written true [])⟩ :=
        rfl
      have hStart :
          ∀ d, Numeral.isDigit d = true →
            scanStep
                ⟨before, .number .sign (written true [])⟩ d =
              some
                ⟨before,
                  .number (if d = '0' then .zero else .whole)
                    (written true [d])⟩ := by
        intro d hDigit
        have hMem := mem_of_isDigit hDigit
        fin_cases hMem <;> rfl
      rw [hChars, List.cons_append, List.foldlM_cons, hMinus]
      simp only [Option.bind_eq_bind, Option.bind_some]
      rw [foldlM_natural (n + 1) rest hStart hStop]
      rfl

end Json

end Courier

------------------------------------------------------------
-- Forms of Values
------------------------------------------------------------

namespace Courier

namespace Json

/- In front of a stop the characters are the document. -/
def Forms
    (chars : List Char)
    (d : Document) : Prop :=
  ∃ tokens, Spells chars tokens ∧ Document.Builds tokens d

/- The form of a text. -/
theorem forms_text
    (text : String) :
    Forms (Json.text text).chars (.text (some text)) :=
  ⟨[.text (some text)], spells_quoted text,
    Document.builds_singleton fun _ => rfl⟩

/- The form of a whole number. -/
theorem forms_ofInt
    (n : Int) :
    Forms (ofInt n).chars (.number (Decimal.ofInt n)) :=
  ⟨[.number (Decimal.ofInt n)], spells_ofInt n,
    Document.builds_singleton fun _ => rfl⟩

/- The forms of the members of an object, one by one. -/
theorem memberChars_eq
    (members : List (String × Json)) :
    memberChars members =
      members.map fun m => quoted m.1 ++ ':' :: m.2.chars := by
  induction members with
  | nil => rfl
  | cons m rest ih =>
      rw [memberChars, ih, List.map_cons]

/-
  An object is read back with its members in their order, if
  there are any and each value has a form.
-/
theorem read?_renderMembers
    {members : List (String × Json)}
    {d : Json → Document}
    (hSome : members ≠ [])
    (hForms : ∀ m ∈ members, Forms m.2.chars (d m.2)) :
    Document.read? (renderMembers members).toList =
      some
        (.object (members.map fun m => (some m.1, d m.2))) := by
  have hTokens :
      ∀ m : String × Json,
        ∃ tokens,
          m ∈ members →
            Spells m.2.chars tokens ∧
              Document.Builds tokens (d m.2) := by
    intro m
    by_cases hMem : m ∈ members
    · rcases hForms m hMem with ⟨tokens, hForm⟩
      exact ⟨tokens, fun _ => hForm⟩
    · exact ⟨[], fun hIn => absurd hIn hMem⟩
  choose tokens hTokens using hTokens
  have hInner :
      Spells (List.intercalate [','] (memberChars members))
        (List.intercalate [.comma]
          (members.map fun m =>
            .text (some m.1) :: .colon :: tokens m)) := by
    rw [memberChars_eq]
    exact
      spells_intercalate fun m hMem =>
        spells_member m.1 (hTokens m hMem).1
  have hMembers :=
    Document.foldlM_members Prod.fst [] []
      [.closeObject] (Or.inr rfl) hSome fun m hMem =>
        (hTokens m hMem).2
  simp only [List.append_nil] at hMembers
  have hOpen :
      Document.step ⟨[], .value⟩ .openObject =
        some ⟨[.object [] none], .nameOrClose⟩ := rfl
  rw [renderMembers, render, String.toList_ofList, chars,
    Document.read?, tokens?_object hInner]
  simp only [List.cons_append, List.foldlM_cons, hOpen,
    Option.bind_eq_bind, Option.bind_some]
  rw [hMembers]
  simp [Document.step, Document.Machine.close?,
    Document.Machine.complete]

end Json

end Courier
