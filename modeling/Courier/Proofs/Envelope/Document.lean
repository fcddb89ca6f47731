import Courier.Proofs.Envelope.RoundTrip
import Courier.Proofs.Json.Embedding

/-
  Commands and answers that travel as JSON.

  An envelope comes back from its JSON text unchanged, up to
  what stays with the sender, if its attached object does.
  An object that is null comes back as no object.

  Key definitions include:
    * `Json.document`
    * `Json.present?`

  Key theorems include:
    * `Json.forms_document`
    * `Record.optional?_document`
    * `Command.ofJson_toJson_eq`
    * `Command.ofJson_toJson`
    * `Answer.ofJson_toJson_eq`
    * `Answer.ofJson_toJson`
-/

------------------------------------------------------------
-- Documents of Values
------------------------------------------------------------

namespace Courier

namespace Json

/- The document of the text of a value. -/
def document : Json → Document
  | .text s => .text (some s)
  | .number (.whole n) => .number (Decimal.ofInt n)
  | value => (Document.read? value.chars).getD .null

/- An attached object, which is absent if it is null. -/
def present? : Option Json → Option Json
  | some .null => none
  | other => other

variable {value : Json}

/- A text that is read has the document of its value. -/
theorem document_of_read?
    {d : Document}
    (hRead : Document.read? value.chars = some d) :
    value.document = d := by
  have hForms := forms_of_read? hRead
  unfold document
  split
  · exact forms_unique (forms_text _) hForms
  · exact forms_unique (forms_ofInt _) hForms
  · rw [hRead]
    rfl

/- A value that is read back has a form. -/
theorem forms_document
    (hRead : read? value.chars = some value) :
    Forms value.chars value.document := by
  rcases Option.bind_eq_some_iff.mp hRead with
    ⟨d, hDocument, -⟩
  rw [document_of_read? hDocument]
  exact forms_of_read? hDocument

/- A value that is read back is that of its document. -/
theorem toJson?_document
    (hRead : read? value.chars = some value) :
    value.document.toJson? Document.levelBound =
      some value := by
  rcases Option.bind_eq_some_iff.mp hRead with
    ⟨d, hDocument, hValue⟩
  rw [document_of_read? hDocument]
  exact hValue

end Json

/- A text is read back from its form. -/
theorem Line.readsBack_of_text
    {object : Option Json}
    (hObject :
      ∀ value ∈ object, ∃ text, value = .text text) :
    Line.ReadsBack object := by
  intro value hValue
  rcases hObject value hValue with ⟨text, rfl⟩
  exact Json.read?_text text

namespace Record

/-
  An object that is read back comes back as a member as
  well, unless it is null or nested too deeply.
-/
theorem optional?_document
    {object found : Option Json}
    (hReads : Line.ReadsBack object)
    (hFound :
      optional? value? (object.map Json.document) =
        some found) :
    found = Json.present? object := by
  cases object with
  | none =>
      cases hFound
      rfl
  | some value =>
      have hValue := Json.toJson?_document (hReads value rfl)
      rw [Option.map_some] at hFound
      unfold optional? at hFound
      split at hFound
      · next hNone => cases hNone
      · next hNull =>
          cases hFound
          rw [Option.some.inj hNull] at hValue
          cases hValue
          rfl
      · next d hNotNull hSome =>
          cases hSome
          rcases Option.map_eq_some_iff.mp hFound with
            ⟨other, hOther, rfl⟩
          -- A member has one level less than a whole text.
          have hMore := Document.toJson?_succ _ hOther
          have hSame : other = value :=
            Option.some.inj (hMore.symm.trans hValue)
          rw [hSame]
          cases value with
          | null => exact absurd rfl hNotNull
          | _ => rfl

/- The members of an object whose names are sound. -/
theorem named?_map
    (members : List (String × Json))
    (d : Json → Document) :
    named? (members.map fun m => (some m.1, d m.2)) =
      some (members.map fun m => (m.1, d m.2)) := by
  induction members with
  | nil => rfl
  | cons m rest ih =>
      simp only [List.map_cons, named?, ih]

/- The value of a whole number below the bound. -/
theorem toNumber?_ofInt
    {n : Nat}
    (hBound : n < Decimal.wordBound) :
    (Decimal.ofInt n).toNumber? = some (.whole n) := by
  have hValue := Numeral.value_toString n
  show
    Decimal.toNumber?
        { negative := false
          whole := (toString n).toList
          fraction := []
          power := none } =
      some (.whole n)
  simp only [Decimal.toNumber?, hValue, List.isEmpty_nil,
    Option.isNone_none, Bool.and_self, Bool.not_false, hBound,
    decide_true, if_true]

/- A number of 64 bits is read back. -/
theorem word?_ofNat
    (n : UInt64) :
    word? (Json.ofNat n.toNat).document = some n := by
  have hNumber :=
    toNumber?_ofInt (n := n.toNat) n.toNat_lt
  show word? (.number (Decimal.ofInt n.toNat)) = some n
  simp only [word?, hNumber, Int.natCast_nonneg, if_true,
    Int.toNat_natCast, UInt64.ofNat_toNat]

end Record

end Courier

------------------------------------------------------------
-- Commands
------------------------------------------------------------

namespace Courier

namespace Command

/- An optional member has a form if its value has one. -/
theorem forms_optionalMember
    {name : String}
    {value : Option Json}
    {m : String × Json}
    (hForms : ∀ v ∈ value, Json.Forms v.chars v.document)
    (hMem : m ∈ optionalMember name value) :
    Json.Forms m.2.chars m.2.document := by
  cases value with
  | none => cases hMem
  | some v =>
      rw [List.mem_singleton.mp hMem]
      exact hForms v rfl

/- An optional text has a form. -/
theorem forms_optionalText
    {name : String}
    {value : Option String}
    {m : String × Json}
    (hMem : m ∈ optionalMember name (value.map .text)) :
    Json.Forms m.2.chars m.2.document := by
  apply forms_optionalMember ?_ hMem
  intro v hValue
  rcases Option.map_eq_some_iff.mp hValue with ⟨s, -, rfl⟩
  exact Json.forms_text s

variable {c : Command}

/- Every member of a command has a form. -/
theorem forms_members
    (hObject : Line.ReadsBack c.object) :
    ∀ m ∈ c.members, Json.Forms m.2.chars m.2.document := by
  intro m hMem
  simp only [members, List.mem_append] at hMem
  rcases hMem with ((hFirst | hFileId) | hDomain) | hLast
  · simp only [List.mem_cons, List.not_mem_nil, or_false]
      at hFirst
    rcases hFirst with rfl | rfl | rfl | rfl | rfl
    · exact Json.forms_text _
    · exact Json.forms_text _
    · exact Json.forms_text _
    · exact Json.forms_text _
    · exact Json.forms_ofInt _
  · exact forms_optionalText hFileId
  · exact forms_optionalText hDomain
  · apply forms_optionalMember ?_ hLast
    intro v hValue
    exact Json.forms_document (hObject v hValue)

/- The members of a command are found under their names. -/
theorem members?_members :
    Record.members? memberNames
        (.object
          (c.members.map fun m => (some m.1, m.2.document))) =
      some
        [some (.text (some c.serverName)),
          some (.text (some c.dispatcherId)),
          some (.text (some c.name)),
          some (.text (some c.entity)),
          some (Json.ofNat c.dataLength.toNat).document,
          c.fileId.map fun s => .text (some s),
          c.domain.map fun s => .text (some s),
          c.object.map Json.document] := by
  simp only [Record.members?, Record.named?_map]
  unfold members memberNames optionalMember
  cases c.fileId <;> cases c.domain <;> cases c.object
  all_goals rfl

/-
  A command comes back from its JSON text with whatever its
  attached object comes back as.
-/
theorem ofJson_toJson_eq
    (hObject : Line.ReadsBack c.object) :
    ofJson c.toJson =
      match
        Record.optional? Record.value?
          (c.object.map Json.document) with
      | some object => .ok { c.arrived with object := object }
      | none => .error .notJson := by
  have hRead :
      Document.read? c.toJson.toList =
        some
          (.object
            (c.members.map fun m =>
              (some m.1, m.2.document))) :=
    Json.read?_renderMembers (by simp [members])
      (forms_members hObject)
  simp only [ofJson, hRead, Option.bind_some, ofDocument?,
    members?_members, Record.orDefault?, Record.word?_ofNat]
  generalize
    Record.optional? Record.value?
      (c.object.map Json.document) = found
  cases hFileId : c.fileId <;> cases hDomain : c.domain
  all_goals
    cases found
    all_goals
      simp [arrived, hFileId, hDomain, Record.text?,
        Record.required?, Record.optional?]

/- A command comes back from its JSON text. -/
theorem ofJson_toJson
    (hObject :
      ∀ value ∈ c.object, ∃ text, value = .text text) :
    ofJson c.toJson = .ok c.arrived := by
  rw [ofJson_toJson_eq (Line.readsBack_of_text hObject)]
  cases hValue : c.object with
  | none => simp [arrived, hValue, Record.optional?]
  | some value =>
      rcases hObject value hValue with ⟨text, rfl⟩
      simp [arrived, hValue, Json.document, Record.optional?,
        Record.value?, Document.toJson?]

end Command

end Courier

------------------------------------------------------------
-- Answers
------------------------------------------------------------

namespace Courier

namespace Answer

variable {a : Answer}

/- Every member of an answer has a form. -/
theorem forms_members
    (hObject : Line.ReadsBack a.object) :
    ∀ m ∈ a.members, Json.Forms m.2.chars m.2.document := by
  intro m hMem
  have hFailures :
      a.failure.map (fun f => Json.text f.name) =
        (a.failure.map Failure.name).map .text := by
    rw [Option.map_map]
    rfl
  simp only [members, hFailures, List.mem_append] at hMem
  rcases hMem with ((hFirst | hFileId) | hFailure) | hLast
  · simp only [List.mem_cons, List.not_mem_nil, or_false]
      at hFirst
    rcases hFirst with rfl | rfl | rfl
    · exact Json.forms_ofInt _
    · exact Json.forms_text _
    · exact Json.forms_ofInt _
  · exact Command.forms_optionalText hFileId
  · exact Command.forms_optionalText hFailure
  · apply Command.forms_optionalMember ?_ hLast
    intro v hValue
    exact Json.forms_document (hObject v hValue)

/- The members of an answer are found under their names. -/
theorem members?_members :
    Record.members? memberNames
        (.object
          (a.members.map fun m => (some m.1, m.2.document))) =
      some
        [some (Json.ofInt a.status.code).document,
          some (.text (some a.entity)),
          some (Json.ofNat a.dataLength.toNat).document,
          a.fileId.map fun s => .text (some s),
          a.failure.map fun f => .text (some f.name),
          a.object.map Json.document] := by
  simp only [Record.members?, Record.named?_map]
  unfold members memberNames Command.optionalMember
  cases a.fileId <;> cases a.failure <;> cases a.object
  all_goals rfl

/- A status comes back from its code. -/
theorem status?_code
    (s : Status) :
    status? (Json.ofInt s.code).document = some s := by
  cases s <;> decide

/- A failure comes back from its name. -/
theorem failure?_name
    (f : Failure) :
    failure? (.text (some f.name)) = some f := by
  exact Failure.ofName?_name f

/-
  An answer comes back from its JSON text with whatever its
  attached object comes back as.
-/
theorem ofJson_toJson_eq
    (hObject : Line.ReadsBack a.object) :
    ofJson a.toJson =
      match
        Record.optional? Record.value?
          (a.object.map Json.document) with
      | some object => .ok { a with object := object }
      | none => .error .notJson := by
  have hRead :
      Document.read? a.toJson.toList =
        some
          (.object
            (a.members.map fun m =>
              (some m.1, m.2.document))) :=
    Json.read?_renderMembers (by simp [members])
      (forms_members hObject)
  simp only [ofJson, hRead, Option.bind_some, ofDocument?,
    members?_members, Record.orDefault?, Record.required?,
    Record.word?_ofNat, status?_code]
  generalize
    Record.optional? Record.value?
      (a.object.map Json.document) = found
  cases a.fileId <;> cases a.failure
  all_goals
    cases found
    all_goals
      simp [Record.text?, Record.optional?, failure?_name]

/- An answer comes back from its JSON text. -/
theorem ofJson_toJson
    (hObject :
      ∀ value ∈ a.object, ∃ text, value = .text text) :
    ofJson a.toJson = .ok a := by
  rw [ofJson_toJson_eq (Line.readsBack_of_text hObject)]
  rcases a with
    ⟨status, entity, dataLength, fileId, failure, object⟩
  cases object with
  | none => rfl
  | some value =>
      rcases hObject value rfl with ⟨text, rfl⟩
      rfl

end Answer

end Courier
