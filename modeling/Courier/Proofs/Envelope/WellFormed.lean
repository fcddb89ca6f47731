import Courier.Envelope.Answer

/-
  What a decoder promises about the envelopes it accepts.

  A line is checked for the names of a command and for a
  failure on a successful answer.  A JSON text is not, so
  there the envelope is sound exactly if the members of the
  text are.

  Key definitions include:
    * `Command.IsWellFormed`
    * `Command.NamesBoth`
    * `Answer.IsWellFormed`
    * `Answer.BlamesFailures`
    * `Record.member?`

  Key theorems include:
    * `Command.isWellFormed_of_ofFields`
    * `Command.isWellFormed_iff_namesBoth`
    * `Answer.isWellFormed_of_ofFields`
    * `Answer.isWellFormed_iff_blamesFailures`
    * `isWellFormed_of_accepted`
-/

------------------------------------------------------------
-- Members
------------------------------------------------------------

namespace Courier

namespace Record

/- The member of a record with a name, if it is there. -/
def member?
    (names : List String)
    (name : String)
    (d : Document) : Option Document :=
  (members? names d).bind fun all =>
    ((names.zip all).lookup name).join

/- A text is empty only if it was given as empty. -/
theorem text?_eq_empty
    {m : Option Document}
    {s : String}
    (hText : required? text? m = some s) :
    s = "" ↔ m = some (.text (some "")) := by
  cases m with
  | none => cases hText
  | some d =>
      cases d with
      | text given =>
          have hGiven : given = some s := hText
          rw [hGiven]
          simp
      | null => cases hText
      | bool b => cases hText
      | number n => cases hText
      | array items => cases hText
      | object members => cases hText

/- A member is absent only if it is missing or null. -/
theorem optional?_eq_none
    {α : Type}
    {read : Document → Option α}
    {m : Option Document}
    {value : Option α}
    (hRead : optional? read m = some value) :
    value = none ↔ m = none ∨ m = some .null := by
  unfold optional? at hRead
  split at hRead
  · cases hRead
    simp
  · cases hRead
    simp
  · next d hNull =>
      rcases Option.map_eq_some_iff.mp hRead with ⟨a, -, rfl⟩
      simpa using hNull

end Record

end Courier

------------------------------------------------------------
-- Commands
------------------------------------------------------------

namespace Courier

namespace Command

/- The command says nothing of its own about its route. -/
structure HasDefaultRoute
    (c : Command) : Prop where
  host : c.host = ""
  port : c.port = 0
  mode : c.mode = .sockets
  forceSockets : c.forceSockets = false
  timeoutMs : c.timeoutMs = defaultTimeoutMs

/- A command as the other side may rely on it. -/
structure IsWellFormed
    (c : Command) : Prop where
  dispatcherId : c.dispatcherId ≠ ""
  name : c.name ≠ ""
  route : c.HasDefaultRoute

/- A JSON text does not spell an empty name of a command. -/
def NamesBoth
    (text : String) : Prop :=
  ∀ d, Document.read? text.toList = some d →
    ∀ key ∈ ["dispatcherId", "name"],
      Record.member? memberNames key d ≠
        some (.text (some ""))

variable {c : Command}

/- Fields spell well-formed commands only. -/
theorem isWellFormed_of_ofFields
    {fields : List String}
    {object : Option Json}
    (hRead : ofFields fields object = .ok c) :
    c.IsWellFormed := by
  unfold ofFields at hRead
  split at hRead
  · split at hRead
    · cases hRead
    · next hNamed =>
        simp only [Bool.or_eq_true, String.isEmpty_iff, not_or]
          at hNamed
        split at hRead
        · cases hRead
        · cases hRead
          exact
            ⟨hNamed.1, hNamed.2, ⟨rfl, rfl, rfl, rfl, rfl⟩⟩
  · cases hRead

/- The names of a command are members of its document. -/
theorem names_of_ofDocument?
    {d : Document}
    (hRead : ofDocument? d = some c) :
    c.HasDefaultRoute ∧
      Record.required? Record.text?
          (Record.member? memberNames "dispatcherId" d) =
        some c.dispatcherId ∧
      Record.required? Record.text?
          (Record.member? memberNames "name" d) =
        some c.name := by
  unfold ofDocument? at hRead
  split at hRead
  · next serverName dispatcherId name entity dataLength fileId
      domain object hMembers =>
      have hId :
          Record.member? memberNames "dispatcherId" d =
            dispatcherId := by
        rw [Record.member?, hMembers]
        rfl
      have hName :
          Record.member? memberNames "name" d = name := by
        rw [Record.member?, hMembers]
        rfl
      simp only [Option.bind_eq_bind, Option.bind_eq_some_iff]
        at hRead
      rcases hRead with
        ⟨_, -, id, hGivenId, given, hGivenName, _, -, _, -, _,
          -, _, -, _, -, hCommand⟩
      cases hCommand
      rw [hId, hName]
      exact
        ⟨⟨rfl, rfl, rfl, rfl, rfl⟩, hGivenId, hGivenName⟩
  · cases hRead

/- A command of a JSON text has the names of the text. -/
theorem isWellFormed_iff_namesBoth
    {text : String}
    (hRead : ofJson text = .ok c) :
    c.HasDefaultRoute ∧
      (c.IsWellFormed ↔ NamesBoth text) := by
  unfold ofJson at hRead
  split at hRead
  · next other hOther =>
      cases hRead
      rcases Option.bind_eq_some_iff.mp hOther with
        ⟨d, hDocument, hCommand⟩
      rcases names_of_ofDocument? hCommand with
        ⟨hRoute, hId, hName⟩
      have hIdEmpty := Record.text?_eq_empty hId
      have hNameEmpty := Record.text?_eq_empty hName
      refine ⟨hRoute, ?_⟩
      constructor
      · intro hFormed other hSame key hKey
        rw [hDocument] at hSame
        cases hSame
        simp only [List.mem_cons, List.not_mem_nil, or_false]
          at hKey
        rcases hKey with rfl | rfl
        · exact mt hIdEmpty.mpr hFormed.dispatcherId
        · exact mt hNameEmpty.mpr hFormed.name
      · intro hNames
        have hBoth := hNames d hDocument
        exact
          ⟨mt hIdEmpty.mp (hBoth "dispatcherId" (by simp)),
            mt hNameEmpty.mp (hBoth "name" (by simp)), hRoute⟩
  · cases hRead

end Command

end Courier

------------------------------------------------------------
-- Answers
------------------------------------------------------------

namespace Courier

namespace Answer

/- Only an answer that failed says why it failed. -/
def IsWellFormed
    (a : Answer) : Prop :=
  a.failure.isSome = true → a.status.isFailure = true

/-
  A JSON text gives a failure only next to the code of a
  status that is one.
-/
def BlamesFailures
    (text : String) : Prop :=
  ∀ d, Document.read? text.toList = some d →
    Record.member? memberNames "failure" d = none ∨
      Record.member? memberNames "failure" d = some .null ∨
      (Record.required? status?
            (Record.member? memberNames "status" d)).any
          Status.isFailure =
        true

variable {a : Answer}

/- Fields spell well-formed answers only. -/
theorem isWellFormed_of_ofFields
    {fields : List String}
    {object : Option Json}
    (hRead : ofFields fields object = .ok a) :
    a.IsWellFormed := by
  unfold ofFields at hRead
  split at hRead
  · simp only [bind, Except.bind] at hRead
    split at hRead
    · cases hRead
    split at hRead
    · cases hRead
    split at hRead
    · cases hRead
    · next hFailure =>
        split at hRead
        · cases hRead
        · cases hRead
          intro hSome
          simpa [hSome] using hFailure
  · cases hRead

/- Status and failure are members of the document. -/
theorem members_of_ofDocument?
    {d : Document}
    (hRead : ofDocument? d = some a) :
    Record.required? status?
          (Record.member? memberNames "status" d) =
        some a.status ∧
      Record.optional? failure?
          (Record.member? memberNames "failure" d) =
        some a.failure := by
  unfold ofDocument? at hRead
  split at hRead
  · next status entity dataLength fileId failure object
      hMembers =>
      have hStatus :
          Record.member? memberNames "status" d = status := by
        rw [Record.member?, hMembers]
        rfl
      have hFailure :
          Record.member? memberNames "failure" d =
            failure := by
        rw [Record.member?, hMembers]
        rfl
      simp only [Option.bind_eq_bind, Option.bind_eq_some_iff]
        at hRead
      rcases hRead with
        ⟨_, hGivenStatus, _, -, _, -, _, -, _, hGivenFailure,
          _, -, hAnswer⟩
      cases hAnswer
      rw [hStatus, hFailure]
      exact ⟨hGivenStatus, hGivenFailure⟩
  · cases hRead

/- An answer of a JSON text fails as the text does. -/
theorem isWellFormed_iff_blamesFailures
    {text : String}
    (hRead : ofJson text = .ok a) :
    a.IsWellFormed ↔ BlamesFailures text := by
  unfold ofJson at hRead
  split at hRead
  · next other hOther =>
      cases hRead
      rcases Option.bind_eq_some_iff.mp hOther with
        ⟨d, hDocument, hAnswer⟩
      rcases members_of_ofDocument? hAnswer with
        ⟨hStatus, hFailure⟩
      have hNone := Record.optional?_eq_none hFailure
      constructor
      · intro hFormed other hSame
        rw [hDocument] at hSame
        cases hSame
        rw [← or_assoc, ← hNone, hStatus]
        cases hGiven : a.failure with
        | none => exact Or.inl rfl
        | some f =>
            right
            apply hFormed
            rw [hGiven]
            rfl
      · intro hBlames hSome
        have hGiven := hBlames d hDocument
        rw [← or_assoc, ← hNone, hStatus] at hGiven
        rcases hGiven with hAbsent | hFailed
        · rw [hAbsent] at hSome
          cases hSome
        · exact hFailed
  · cases hRead

end Answer

end Courier

------------------------------------------------------------
-- Both Envelopes
------------------------------------------------------------

namespace Courier

/-
  A line that is accepted spells a well-formed envelope.  A
  JSON text that is accepted spells a command of the default
  route, with both names exactly if the text has them, and
  an answer that is well-formed exactly if the text gives no
  failure to a success.
-/
theorem isWellFormed_of_accepted
    (text : String) :
    (∀ c, Command.ofLine text = .ok c → c.IsWellFormed) ∧
    (∀ c, Command.ofJson text = .ok c →
      c.HasDefaultRoute ∧
        (c.IsWellFormed ↔ Command.NamesBoth text)) ∧
    (∀ a, Answer.ofLine text = .ok a → a.IsWellFormed) ∧
    (∀ a, Answer.ofJson text = .ok a →
      (a.IsWellFormed ↔ Answer.BlamesFailures text)) := by
  refine ⟨?_, ?_, ?_, ?_⟩
  · intro c hRead
    unfold Command.ofLine at hRead
    split at hRead
    · cases hRead
    · exact Command.isWellFormed_of_ofFields hRead
  · intro c hRead
    exact Command.isWellFormed_iff_namesBoth hRead
  · intro a hRead
    unfold Answer.ofLine at hRead
    split at hRead
    · cases hRead
    · exact Answer.isWellFormed_of_ofFields hRead
  · intro a hRead
    exact Answer.isWellFormed_iff_blamesFailures hRead

/- A success of a JSON text that has a failure. -/
def blamedSuccess : String :=
  "\x7b\"status\":1,\"failure\":\"storage\"\x7d"

/- It is accepted as it is. -/
theorem ofJson_blamedSuccess :
    Answer.ofJson blamedSuccess =
      .ok { Answer.ok "" with failure := some .storage } := by
  rfl

/- A command of a JSON text without its dispatcher. -/
def unnamedCommand : String :=
  "\x7b\"dispatcherId\":\"\",\"name\":\"LOG\"\x7d"

/- Lines keep the promise, and two JSON texts break it. -/
theorem isWellFormed_of_accepted_unsound :
    (Command.make "log" "LOG").IsWellFormed ∧
      (Answer.error .storage "disk").IsWellFormed ∧
      (Command.make "" "LOG").HasDefaultRoute ∧
      ¬ Command.NamesBoth unnamedCommand ∧
      ¬ Answer.BlamesFailures blamedSuccess := by
  have hLine :
      Command.ofLine "#|#log#|#LOG#|##|##|##|#" =
        .ok (Command.make "log" "LOG") := by
    rfl
  have hAnswer :
      Answer.ofLine "-1#|#disk#|##|##|#storage" =
        .ok (Answer.error .storage "disk") := by
    rfl
  have hUnnamed :
      Command.ofJson unnamedCommand =
        .ok (Command.make "" "LOG") := by
    rfl
  have hNames :=
    (isWellFormed_of_accepted unnamedCommand).2.1 _ hUnnamed
  have hFailures :=
    (isWellFormed_of_accepted blamedSuccess).2.2.2 _
      ofJson_blamedSuccess
  refine
    ⟨(isWellFormed_of_accepted _).1 _ hLine,
      (isWellFormed_of_accepted _).2.2.1 _ hAnswer, hNames.1,
      ?_, ?_⟩
  · intro hBoth
    exact (hNames.2.mpr hBoth).dispatcherId rfl
  · intro hBlames
    cases hFailures.mpr hBlames rfl

/- A success with a failure is accepted as a JSON text. -/
theorem not_forall_isWellFormed :
    ¬ ∀ text : String,
      (∀ c, Command.ofLine text = .ok c → c.IsWellFormed) ∧
      (∀ c, Command.ofJson text = .ok c → c.IsWellFormed) ∧
      (∀ a, Answer.ofLine text = .ok a → a.IsWellFormed) ∧
      (∀ a, Answer.ofJson text = .ok a → a.IsWellFormed) := by
  intro hAll
  have hFormed :=
    (hAll blamedSuccess).2.2.2 _ ofJson_blamedSuccess
  cases hFormed rfl

end Courier
