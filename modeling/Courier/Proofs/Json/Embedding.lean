import Courier.Proofs.Json.Record

/-
  A JSON text as a part of another.

  The scanner never looks at the tokens it has, and the
  machine never looks below the frames it opened.  So a text
  that is JSON by itself is the same document where a member
  of an object stands.

  Key definitions include:
    * `Json.Scanned.above`
    * `Document.Machine.above`

  Key theorems include:
    * `Json.scanStep_above`
    * `Document.step_above`
    * `Json.forms_of_read?`
    * `Json.forms_unique`
    * `Document.toJson?_succ`
-/

------------------------------------------------------------
-- Tokens Before
------------------------------------------------------------

namespace Courier

namespace Json

variable {before : List Token}
variable {s s' : Scanned}

/- The scanner with other tokens before its own. -/
def Scanned.above
    (before : List Token)
    (s : Scanned) : Scanned :=
  { s with tokens := s.tokens ++ before }

/- A token starts whatever tokens there are. -/
theorem startToken?_above
    (before tokens : List Token)
    (c : Char) :
    startToken? (tokens ++ before) c =
      (startToken? tokens c).map (Scanned.above before) := by
  simp only [startToken?,
    apply_ite (Option.map (Scanned.above before)),
    Option.map_some, Option.map_none, Scanned.above,
    List.cons_append]

/- The scanner takes a character whatever tokens it has. -/
theorem scanStep_above
    (before : List Token)
    (s : Scanned)
    (c : Char) :
    scanStep (s.above before) c =
      (scanStep s c).map (Scanned.above before) := by
  rcases s with ⟨tokens, scan⟩
  unfold scanStep Scanned.above
  simp only [← List.cons_append, startToken?_above]
  cases scan
  all_goals
    simp only
    repeat' split
    all_goals rfl

/- The scanner takes a text whatever tokens it has. -/
theorem foldlM_above
    {chars : List Char}
    (before : List Token)
    (hScan : chars.foldlM scanStep s = some s') :
    chars.foldlM scanStep (s.above before) =
      some (s'.above before) := by
  induction chars generalizing s with
  | nil =>
      cases hScan
      rfl
  | cons c chars ih =>
      rw [List.foldlM_cons] at hScan ⊢
      rcases Option.bind_eq_some_iff.mp hScan with
        ⟨next, hStep, hRest⟩
      rw [scanStep_above, hStep]
      exact ih hRest

/- A number that may end does so at a stop. -/
theorem step_of_token?
    {place : Place}
    {d : Digits}
    {token : Token}
    {c : Char}
    (hToken : Digits.token? place d = some token)
    (hStop : isStop c = true) :
    Digits.step place d c = some none := by
  simp only [isStop, Bool.or_eq_true, beq_iff_eq] at hStop
  rcases hStop with (rfl | rfl) | rfl
  all_goals
    cases place with
    | zero | whole | fraction | power => rfl
    | sign | point | mark | powerSign => cases hToken

/- A text of tokens has them in front of a stop as well. -/
theorem spells_of_tokens?
    {chars : List Char}
    {tokens : List Token}
    (hTokens : tokens? chars = some tokens) :
    Spells chars tokens := by
  intro before c rest hStop
  unfold tokens? at hTokens
  split at hTokens
  · cases hTokens
  · next s hScan =>
      have hAbove := foldlM_above before hScan
      rw [List.foldlM_append,
        show Scanned.mk before .between =
          Scanned.above before ⟨[], .between⟩ from rfl,
        hAbove]
      rcases s with ⟨found, scan⟩
      split at hTokens
      · next hBetween =>
          cases hBetween
          cases hTokens
          rw [List.reverse_reverse]
          rfl
      · next place d hNumber =>
          -- The end of the text has ended this number, and
          -- in its place the stop does.
          cases hNumber
          rcases Option.map_eq_some_iff.mp hTokens with
            ⟨token, hToken, rfl⟩
          have hEnd := step_of_token? hToken hStop
          simp only [Option.bind_eq_bind, Option.bind_some,
            List.foldlM_cons, scanStep, Scanned.above, hEnd,
            hToken, List.reverse_reverse, List.cons_append]
      · cases hTokens

end Json

end Courier

------------------------------------------------------------
-- Frames Below
------------------------------------------------------------

namespace Courier

namespace Document

/-
  The machine with other frames below its own.  A document
  that was all there is becomes a value in the frame below.
-/
def Machine.above
    (below : List Frame)
    (m : Machine) : Machine :=
  match m.expect with
  | .nothing d => complete (m.frames ++ below) d
  | expect => ⟨m.frames ++ below, expect⟩

/- A value is complete whatever frames are below. -/
theorem complete_above
    (below frames : List Frame)
    (d : Document) :
    (Machine.complete frames d).above below =
      Machine.complete (frames ++ below) d := by
  cases frames with
  | nil => rfl
  | cons frame frames => cases frame <;> rfl

/- A value starts whatever frames are below. -/
theorem begin?_above
    {frames : List Frame}
    {token : Json.Token}
    {m : Machine}
    (below : List Frame)
    (hBegin : Machine.begin? frames token = some m) :
    Machine.begin? (frames ++ below) token =
        some (m.above below) ∧
      Machine.close? (frames ++ below) token = none := by
  -- A token that starts a value closes no frame.
  have hClose (frames : List Frame)
      (hNot : token ≠ .closeArray ∧ token ≠ .closeObject) :
      Machine.close? frames token = none := by
    unfold Machine.close?
    split
    · exact absurd rfl hNot.1
    · exact absurd rfl hNot.2
    · rfl
  cases token with
  | closeArray | closeObject | comma | colon => cases hBegin
  | openArray | openObject =>
      cases hBegin
      exact ⟨rfl, hClose _ (by simp)⟩
  | null | bool | number | text =>
      cases hBegin
      refine ⟨?_, hClose _ (by simp)⟩
      rw [complete_above]
      rfl

/- A frame ends whatever frames are below. -/
theorem close?_above
    {frames : List Frame}
    {token : Json.Token}
    {m : Machine}
    (below : List Frame)
    (hClose : Machine.close? frames token = some m) :
    Machine.close? (frames ++ below) token =
      some (m.above below) := by
  unfold Machine.close? at hClose
  split at hClose
  · cases hClose
    rw [complete_above]
    rfl
  · cases hClose
    rw [complete_above]
    rfl
  · cases hClose

/- A name is taken whatever frames are below. -/
theorem name_above
    {frames : List Frame}
    {expect : Expect}
    {s : Option String}
    {m : Machine}
    (below : List Frame)
    (hExpect : expect = .name ∨ expect = .nameOrClose)
    (hStep : step ⟨frames, expect⟩ (.text s) = some m) :
    step ⟨frames ++ below, expect⟩ (.text s) =
      some (m.above below) := by
  cases frames with
  | nil => rcases hExpect with rfl | rfl <;> cases hStep
  | cons frame frames =>
      cases frame with
      | array items =>
          rcases hExpect with rfl | rfl <;> cases hStep
      | object members name =>
          rcases hExpect with rfl | rfl
          all_goals
            cases hStep
            rfl

/- The machine takes a token whatever frames are below. -/
theorem step_above
    {m m' : Machine}
    {token : Json.Token}
    (below : List Frame)
    (hStep : step m token = some m') :
    step (m.above below) token = some (m'.above below) := by
  rcases m with ⟨frames, expect⟩
  cases expect with
  | nothing d => cases hStep
  | value => exact (begin?_above below hStep).1
  | valueOrClose =>
      simp only [step] at hStep
      show
        step ⟨frames ++ below, .valueOrClose⟩ token =
          some (m'.above below)
      simp only [step]
      split at hStep
      · next closed hClosed =>
          cases hStep
          rw [close?_above below hClosed]
      · rcases begin?_above below hStep with
          ⟨hBegin, hNone⟩
        rw [hNone]
        exact hBegin
  | commaOrClose =>
      cases token with
      | comma =>
          cases frames with
          | nil => cases hStep
          | cons frame frames =>
              cases frame with
              | array items =>
                  cases hStep
                  rfl
              | object members name =>
                  cases hStep
                  rfl
      | _ => exact close?_above below hStep
  | name =>
      cases token with
      | text s => exact name_above below (Or.inl rfl) hStep
      | _ => cases hStep
  | nameOrClose =>
      cases token with
      | text s => exact name_above below (Or.inr rfl) hStep
      | _ => exact close?_above below hStep
  | colon =>
      cases token with
      | colon =>
          cases hStep
          rfl
      | _ => cases hStep

/- The machine takes tokens whatever frames are below. -/
theorem foldlM_above
    {tokens : List Json.Token}
    {m m' : Machine}
    (below : List Frame)
    (hRun : tokens.foldlM step m = some m') :
    tokens.foldlM step (m.above below) =
      some (m'.above below) := by
  induction tokens generalizing m with
  | nil =>
      cases hRun
      rfl
  | cons token tokens ih =>
      rw [List.foldlM_cons] at hRun ⊢
      rcases Option.bind_eq_some_iff.mp hRun with
        ⟨next, hStep, hRest⟩
      rw [step_above below hStep]
      exact ih hRest

/- Tokens of a document build it wherever it may start. -/
theorem builds_of_foldlM
    {tokens : List Json.Token}
    {d : Document}
    (hRun :
      tokens.foldlM step ⟨[], .value⟩ =
        some ⟨[], .nothing d⟩) :
    Builds tokens d := by
  intro frames rest
  have hAbove := foldlM_above frames hRun
  have hStart :
      Machine.above frames ⟨[], .value⟩ =
        ⟨frames, .value⟩ := rfl
  have hEnd :
      Machine.above frames ⟨[], .nothing d⟩ =
        Machine.complete frames d := rfl
  rw [hStart, hEnd] at hAbove
  rw [List.foldlM_append, hAbove]
  rfl

end Document

namespace Json

/- What is a document by itself has a form. -/
theorem forms_of_read?
    {chars : List Char}
    {d : Document}
    (hRead : Document.read? chars = some d) :
    Forms chars d := by
  unfold Document.read? at hRead
  split at hRead
  · cases hRead
  · next tokens hTokens =>
      refine ⟨tokens, spells_of_tokens? hTokens, ?_⟩
      split at hRead
      · next hRun =>
          cases hRead
          exact Document.builds_of_foldlM hRun
      · cases hRead

/- A value has one form only. -/
theorem forms_unique
    {value : Json}
    {d d' : Document}
    (hForms : Forms value.chars d)
    (hForms' : Forms value.chars d') :
    d = d' := by
  have hSome : [("", value)] ≠ [] := by simp
  -- An object with the value for its only member is read
  -- with either document.
  have hRead (d : Document)
      (hForms : Forms value.chars d) :=
    read?_renderMembers (d := fun _ => d) hSome
      (by simpa using hForms)
  have hSame := (hRead d hForms).symm.trans (hRead d' hForms')
  simpa using hSame

end Json

end Courier

------------------------------------------------------------
-- Levels
------------------------------------------------------------

namespace Courier

namespace Document

variable {levels : Nat}

/- Items have values at more levels if each of them has. -/
theorem itemsToJson?_mono
    (hMore : ∀ (d : Document) {value : Json},
      toJson? levels d = some value →
        toJson? (levels + 1) d = some value)
    {items : List Document}
    {values : List Json}
    (hValues : itemsToJson? levels items = some values) :
    itemsToJson? (levels + 1) items = some values := by
  induction items generalizing values with
  | nil => simpa [itemsToJson?] using hValues
  | cons item rest ih =>
      simp only [itemsToJson?] at hValues ⊢
      split at hValues
      · next value others hItem hRest =>
          rw [hMore item hItem, ih hRest]
          exact hValues
      · cases hValues

/- So do members. -/
theorem membersToJson?_mono
    (hMore : ∀ (d : Document) {value : Json},
      toJson? levels d = some value →
        toJson? (levels + 1) d = some value)
    {members : List (Option String × Document)}
    {values : List (String × Json)}
    (hValues : membersToJson? levels members = some values) :
    membersToJson? (levels + 1) members = some values := by
  induction members generalizing values with
  | nil => simpa [membersToJson?] using hValues
  | cons member rest ih =>
      rcases member with ⟨name, item⟩
      simp only [membersToJson?] at hValues ⊢
      split at hValues
      · next name value others hName hItem hRest =>
          rw [hMore item hItem, ih hRest]
          exact hValues
      · cases hValues

/- A value of few levels is one of more levels as well. -/
theorem toJson?_succ
    (d : Document)
    {value : Json}
    (hValue : toJson? levels d = some value) :
    toJson? (levels + 1) d = some value := by
  induction levels generalizing d value with
  | zero =>
      cases d with
      | array items => simp [toJson?] at hValue
      | object members => simp [toJson?] at hValue
      | _ => simpa [toJson?] using hValue
  | succ levels ih =>
      cases d with
      | array items =>
          simp only [toJson?] at hValue ⊢
          rcases Option.map_eq_some_iff.mp hValue with
            ⟨values, hItems, rfl⟩
          rw [itemsToJson?_mono ih hItems]
          rfl
      | object members =>
          simp only [toJson?] at hValue ⊢
          rcases Option.map_eq_some_iff.mp hValue with
            ⟨values, hMembers, rfl⟩
          rw [membersToJson?_mono ih hMembers]
          rfl
      | _ => simpa [toJson?] using hValue

end Document

end Courier
