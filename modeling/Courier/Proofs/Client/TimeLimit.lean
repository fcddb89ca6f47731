import Courier.Proofs.Client.Session
import Courier.Proofs.Settings.Acceptance

/-
  The time limits of calls.

  All limits that a call applies are the same.  They are
  those of the configuration that was put in place last,
  unless the command has a limit of its own, and commands
  have one from the start.

  Key definitions include:
    * `Choice.limit?`
    * `Errand.KeepsTo`
    * `Errand.LeavesLimit`
    * `Config.callLimit`
    * `Command.limitUnder`
    * `Session.lastOrder`

  Key theorems include:
    * `Errand.keepsTo_iff`
    * `Order.timeLimit_stamp`
    * `Command.limitUnder_eq_iff`
    * `Session.settings_lastOrder`
    * `Session.call_limits`
-/

------------------------------------------------------------
-- Limits of Calls
------------------------------------------------------------

namespace Courier

/- The limit in milliseconds that a choice comes with. -/
def Choice.limit? : Choice → Option Nat
  | .stamp _ | .route .. => none
  | .connect _ _ _ limit
  | .send limit
  | .receive _ limit
  | .copy _ limit => some limit
  | .request q .. => some q.limit

namespace Errand

/- The command of a call, before settings fill it in. -/
def plain : Errand → Command
  | .command c => c
  | .upload u => u.toCommand
  | .download fileId domain => Download.request fileId domain

/- All limits that a call may apply are the given one. -/
def KeepsTo
    (s : ClientSettings)
    (e : Errand)
    (ms : Nat) : Prop :=
  ∀ choice ∈ e.choices s,
    ∀ limit, choice.limit? = some limit → limit = ms

/-
  The calls for which nobody sets a limit: those whose
  commands a client makes up by itself, and those whose
  command has the limit that all commands are made with.
-/
inductive LeavesLimit : Errand → Prop where
| stop : LeavesLimit (.command .stop)
| health : LeavesLimit (.command .health)
| upload (u : Upload) : LeavesLimit (.upload u)
| download
    (fileId : String)
    (domain : Option String) :
    LeavesLimit (.download fileId domain)
| delete (d : Delete) : LeavesLimit (.command d.toCommand)
| send
    {c : Command}
    (hMade : c.timeoutMs = Command.defaultTimeoutMs) :
    LeavesLimit (.command c)

variable {s : ClientSettings}
variable {e : Errand}

/- The commands of these calls have the limit of all. -/
theorem LeavesLimit.timeoutMs
    (hLeaves : e.LeavesLimit) :
    e.plain.timeoutMs = Command.defaultTimeoutMs := by
  cases hLeaves with
  | stop => rfl
  | health => rfl
  | upload u => rfl
  | download fileId domain => rfl
  | delete d => rfl
  | send hMade => exact hMade

/- Settings fill in the plain command of a call. -/
theorem stamped_eq
    (s : ClientSettings)
    (e : Errand) :
    e.stamped s = s.stamp e.plain := by
  cases e <;> rfl

/- What a call chooses on the way over a socket. -/
theorem mem_choicesBySocket
    {c : Command}
    {choice : Choice}
    (hMem : choice ∈ e.choicesBySocket s c) :
    choice = .dial s c ∨ choice = .frame s c ∨
      choice = .answer s c ∨ choice = .bytes s c := by
  rcases List.mem_cons.mp hMem with hDial | hMem
  · exact .inl hDial
  rcases List.mem_cons.mp hMem with hFrame | hMem
  · exact .inr (.inl hFrame)
  refine .inr (.inr ?_)
  cases e with
  | command m =>
      dsimp only [choicesAfterSending] at hMem
      cases hStop : c.isStop with
      | true =>
          rw [if_pos hStop] at hMem
          exact absurd hMem List.not_mem_nil
      | false =>
          rw [if_neg (Bool.eq_false_iff.mp hStop)] at hMem
          exact .inl (List.mem_singleton.mp hMem)
  | upload u =>
      simpa [choicesAfterSending, or_comm] using hMem
  | download fileId domain =>
      simpa [choicesAfterSending] using hMem

/-
  A choice is made before there is a limit, on the way over a
  socket, or for the request over HTTP.
-/
theorem mem_choices
    {choice : Choice}
    (hMem : choice ∈ e.choices s) :
    choice.limit? = none ∨
      choice ∈ e.choicesBySocket s (e.stamped s) ∨
      choice = .post s (e.stamped s) := by
  cases e with
  | command m =>
      simp only [choices, choicesAt, List.mem_cons] at hMem
      rcases hMem with rfl | rfl | hLater
      · exact .inl rfl
      · exact .inl rfl
      · cases hRoute : s.route ((command m).stamped s) with
        | socket =>
            rw [hRoute] at hLater
            exact .inr (.inl hLater)
        | tunnel =>
            rw [hRoute] at hLater
            exact .inr (.inr (List.mem_singleton.mp hLater))
  | upload u =>
      rcases List.mem_cons.mp hMem with rfl | hLater
      · exact .inl rfl
      · exact .inr (.inl hLater)
  | download fileId domain =>
      rcases List.mem_cons.mp hMem with rfl | hLater
      · exact .inl rfl
      · exact .inr (.inl hLater)

/- All limits of a call are that of its command. -/
theorem limit_of_mem_choices
    {choice : Choice}
    {limit : Nat}
    (hMem : choice ∈ e.choices s)
    (hLimit : choice.limit? = some limit) :
    limit = s.timeLimit (e.stamped s) := by
  rcases mem_choices hMem with hNone | hSocket | rfl
  · rw [hNone] at hLimit
    cases hLimit
  · rcases mem_choicesBySocket hSocket with
      rfl | rfl | rfl | rfl
    all_goals exact (Option.some.inj hLimit).symm
  · exact (Option.some.inj hLimit).symm

/- There is no call without a limit. -/
theorem exists_limit
    (s : ClientSettings)
    (e : Errand) :
    ∃ choice ∈ e.choices s,
      choice.limit? = some (s.timeLimit (e.stamped s)) := by
  have hDial (c : Command) :
      Choice.dial s c ∈ e.choicesBySocket s c :=
    List.mem_cons_self
  cases e with
  | command m =>
      cases hRoute : s.route ((command m).stamped s) with
      | socket =>
          refine ⟨.dial s ((command m).stamped s), ?_, rfl⟩
          simp [choices, choicesAt, hRoute, hDial]
      | tunnel =>
          refine ⟨.post s ((command m).stamped s), ?_, rfl⟩
          simp [choices, choicesAt, hRoute]
  | upload u =>
      exact ⟨_, List.mem_cons_of_mem _ (hDial _), rfl⟩
  | download fileId domain =>
      exact ⟨_, List.mem_cons_of_mem _ (hDial _), rfl⟩

/- A call has the limit of its command, and no other. -/
theorem keepsTo_iff
    {ms : Nat} :
    e.KeepsTo s ms ↔ s.timeLimit (s.stamp e.plain) = ms := by
  rw [← stamped_eq]
  constructor
  · intro hKeeps
    rcases exists_limit s e with ⟨choice, hMem, hLimit⟩
    exact hKeeps choice hMem _ hLimit
  · rintro rfl choice hMem limit hLimit
    exact limit_of_mem_choices hMem hLimit

/- The limit for connections over HTTP is that of all. -/
theorem connectLimit_of_mem_choices
    {q : Web.Request}
    {anchors : List Tls.Certificate}
    {connectLimit : UInt64}
    (hMem : .request q anchors connectLimit ∈ e.choices s) :
    connectLimit = s.defaultTimeoutMs := by
  rcases mem_choices hMem with hNone | hSocket | hPost
  · cases hNone
  · rcases mem_choicesBySocket hSocket with
      hOther | hOther | hOther | hOther
    all_goals cases hOther
  · cases hPost
    rfl

end Errand

end Courier

------------------------------------------------------------
-- Limits of Configurations
------------------------------------------------------------

namespace Courier

/- The limit that a configuration gives to calls. -/
def Config.callLimit
    (c : Config) : Nat :=
  (c.clientTimeoutSecs.getD c.connectionTimeoutSecs).toNat *
    1000

/-
  The limit that a command has under a configuration.  The
  limit for all calls of a client comes first, then that of
  the command itself, if it has one.
-/
def Command.limitUnder
    (m : Command)
    (c : Config) : Nat :=
  match c.clientTimeoutSecs with
  | some seconds => seconds.toNat * 1000
  | none =>
      if m.timeoutMs = 0 then
        c.connectionTimeoutSecs.toNat * 1000
      else
        m.timeoutMs.toNat

/-
  A command has the limit of the configuration exactly if
  that is for all calls, or if the command has no limit or
  happens to have that one.
-/
theorem Command.limitUnder_eq_iff
    (m : Command)
    (c : Config) :
    m.limitUnder c = c.callLimit ↔
      c.clientTimeoutSecs.isSome ∨
        m.timeoutMs = 0 ∨
        m.timeoutMs.toNat =
          c.connectionTimeoutSecs.toNat * 1000 := by
  unfold limitUnder Config.callLimit
  cases c.clientTimeoutSecs with
  | some seconds => simp
  | none =>
      by_cases hNone : m.timeoutMs = 0
      · simp [hNone]
      · simp [hNone]

/- Accepted limits are not cut off. -/
theorem toNat_millis
    {seconds : UInt64}
    (hAccepted :
      Validation.timeout seconds.toNat = .ok ()) :
    (millis seconds).toNat = seconds.toNat * 1000 := by
  rcases Validation.timeout_eq_ok_iff.mp hAccepted with
    ⟨-, hShort⟩
  unfold SettingError.maxTimeout at hShort
  unfold millis
  rw [UInt64.toNat_ofNat']
  simp only [UInt64.size]
  omega

namespace ClientSettings

variable {c : Config}
variable {files : FileView}
variable {s : ClientSettings}

/-
  A client takes over the limits of its configuration, and
  the size of the buffer.
-/
theorem numbers_of_ofConfig
    (hMade : ofConfig c files = .ok s) :
    s.defaultTimeoutMs = c.defaultTimeoutMs ∧
      s.clientTimeoutSecs = c.clientTimeoutSecs ∧
      s.bufferSize = c.fileServer.bufferSize := by
  unfold ofConfig at hMade
  split at hMade
  · cases hMade
  split at hMade
  · cases hMade
  split at hMade
  · cases hMade
  cases hMade
  exact ⟨rfl, rfl, rfl⟩

end ClientSettings

namespace Order

variable {order : Order}
variable {s : ClientSettings}

/- An order that is accepted was checked and drawn up. -/
theorem settings_eq_ok_iff :
    order.settings = .ok s ↔
      order.config.validate order.checked = .ok () ∧
        ClientSettings.ofConfig order.config order.loaded =
          .ok s := by
  unfold settings
  split
  · next hCheck => simp [hCheck]
  · next hCheck => simp [hCheck]

/- The limit for connections over HTTP, in milliseconds. -/
theorem defaultTimeout_of_settings
    (hSettings : order.settings = .ok s) :
    s.defaultTimeoutMs.toNat =
      order.config.connectionTimeoutSecs.toNat * 1000 := by
  rcases settings_eq_ok_iff.mp hSettings with ⟨hValid, hMade⟩
  have hPasses := Config.validate_eq_ok_iff.mp hValid
  rw [(ClientSettings.numbers_of_ofConfig hMade).1]
  exact toNat_millis hPasses.connection

/- The limit of a command that a client has filled in. -/
theorem timeLimit_stamp
    (m : Command)
    (hSettings : order.settings = .ok s) :
    s.timeLimit (s.stamp m) = m.limitUnder order.config := by
  have hDefault := defaultTimeout_of_settings hSettings
  rcases settings_eq_ok_iff.mp hSettings with ⟨hValid, hMade⟩
  have hPasses := Config.validate_eq_ok_iff.mp hValid
  rcases Validation.timeout_eq_ok_iff.mp hPasses.connection with
    ⟨hPos, -⟩
  unfold ClientSettings.timeLimit timeLimitOf
    Command.limitUnder
  rw [(ClientSettings.numbers_of_ofConfig hMade).2.1]
  cases hOverall : order.config.clientTimeoutSecs with
  | some seconds =>
      exact toNat_millis (hPasses.client seconds hOverall)
  | none =>
      have hStamped :
          (s.stamp m).timeoutMs =
            if m.timeoutMs = 0 then s.defaultTimeoutMs
            else m.timeoutMs := rfl
      -- What is filled in is never zero.
      have hFilled : s.defaultTimeoutMs ≠ 0 := by
        intro hZero
        rw [hZero] at hDefault
        have hNone : (0 : UInt64).toNat = 0 := rfl
        omega
      by_cases hNone : m.timeoutMs = 0
      · rw [if_pos hNone] at hStamped
        simp only [hStamped, if_neg hFilled, if_pos hNone,
          hDefault]
      · rw [if_neg hNone] at hStamped
        simp only [hStamped, if_neg hNone]

end Order

end Courier

------------------------------------------------------------
-- Limits in a Session
------------------------------------------------------------

namespace Courier

namespace Session

/- The order whose settings were put in place last. -/
def lastOrder
    (home : Order)
    (orders : List Order)
    (installed : List (Nat × ClientSettings)) : Order :=
  (installed.getLast?.bind fun last => orders[last.1]?).getD
    home

/- Only renewals of a session put settings in place. -/
theorem exists_renewal_of_mem_installs
    {s : Session}
    {events : List Event}
    {index : Nat}
    {next : ClientSettings}
    (hMem : (index, next) ∈ s.installs events) :
    ∃ r, s.renewals[index]? = some r := by
  induction events generalizing s with
  | nil => exact absurd hMem List.not_mem_nil
  | cons event rest ih =>
      rcases List.mem_append.mp hMem with hNow | hLater
      · rcases installs?_iff.mp (Option.mem_toList.mp hNow) with
          ⟨-, r, hHere, -⟩
        exact ⟨r, hHere⟩
      · rcases ih hLater with ⟨r, hHere⟩
        rw [renewals_step] at hHere
        split at hHere
        · rcases Option.map_eq_some_iff.mp hHere with
            ⟨r', hBefore, -⟩
          exact ⟨r', hBefore⟩
        · exact ⟨r, hHere⟩

/- The settings in place are those of the last order. -/
theorem settings_lastOrder
    {home : Order}
    {initial : ClientSettings}
    (calls : List (Errand × Surroundings))
    (orders : List Order)
    (events : List Event)
    (hHome : home.settings = .ok initial) :
    let installed := (start initial calls orders).installs events
    (lastOrder home orders installed).settings =
      .ok (latest initial installed) := by
  intro installed
  unfold lastOrder latest
  cases hLast : installed.getLast? with
  | none => exact hHome
  | some last =>
      rcases last with ⟨index, next⟩
      have hMem := List.mem_of_getLast? hLast
      rcases exists_renewal_of_mem_installs hMem with
        ⟨r, hHere⟩
      have hOrder := hHere
      simp only [start, List.getElem?_map,
        Option.map_eq_some_iff] at hOrder
      rcases hOrder with ⟨order, hOrder, rfl⟩
      rcases renewal_run events hHere (.waiting order) with
        ⟨-, -, -, -, -, hSettings⟩
      simp only [Option.bind_some, hOrder, Option.getD_some,
        Option.map_some]
      exact hSettings next hMem

/-
  The limits of a call are those that its command has under
  the configuration that was put in place last before the
  call began.  They are the limit of the configuration if
  that is for all calls, if the command has none, or if it
  happens to have that one.  Commands for which nobody sets a
  limit have the default one, so it must be the default of
  the configuration, too.  Connections over HTTP always have
  the latter as a limit of their own.
-/
theorem call_limits
    {home : Order}
    {initial : ClientSettings}
    (calls : List (Errand × Surroundings))
    (orders : List Order)
    (events : List Event)
    (hHome : home.settings = .ok initial) :
    let s := start initial calls orders
    ∀ index e around before after,
      calls[index]? = some (e, around) →
      events = before ++ .call index :: after →
      .call index ∉ before →
        let installed := s.installs before
        let c := (lastOrder home orders installed).config
        let settings := latest initial installed
        (∃ o,
          (s.run events).calls[index]? = some o ∧
            o.made <+: e.choices settings ∧
            ∀ choice ∈ o.made,
              ∀ limit,
                choice.limit? = some limit →
                  limit = e.plain.limitUnder c) ∧
        (e.KeepsTo settings c.callLimit ↔
          c.clientTimeoutSecs.isSome ∨
            e.plain.timeoutMs = 0 ∨
            e.plain.timeoutMs.toNat =
              c.connectionTimeoutSecs.toNat * 1000) ∧
        (e.LeavesLimit →
          (e.KeepsTo settings c.callLimit ↔
            c.clientTimeoutSecs.isSome ∨
              c.connectionTimeoutSecs = 5)) ∧
        ∀ q anchors connectLimit,
          .request q anchors connectLimit ∈
              e.choices settings →
            connectLimit.toNat =
              c.connectionTimeoutSecs.toNat * 1000 := by
  intro s index e around before after hCall hEvents hFirst
    installed c settings
  have hSettings :
      (lastOrder home orders installed).settings =
        .ok settings :=
    settings_lastOrder calls orders before hHome
  have hLimit :
      settings.timeLimit (settings.stamp e.plain) =
        e.plain.limitUnder c :=
    Order.timeLimit_stamp e.plain hSettings
  have hKeeps :
      e.KeepsTo settings c.callLimit ↔
        c.clientTimeoutSecs.isSome ∨
          e.plain.timeoutMs = 0 ∨
          e.plain.timeoutMs.toNat =
            c.connectionTimeoutSecs.toNat * 1000 := by
    rw [Errand.keepsTo_iff, hLimit, Command.limitUnder_eq_iff]
  refine ⟨?_, hKeeps, ?_, ?_⟩
  · have hFresh :
        s.calls[index]? = some (.fresh e around) := by
      simp only [s, start, List.getElem?_map, hCall,
        Option.map_some]
    rcases goesBy_of_first after hFirst hFresh rfl rfl with
      ⟨o, hHere, hErrand, -, hGoes, -⟩
    have hCurrent : (s.run before).current = settings :=
      current_run s before
    rw [hCurrent] at hGoes
    rw [← hEvents] at hHere
    have hSame : o.errand = e := hErrand
    have hMade : o.made <+: e.choices settings := by
      rw [← hSame]
      exact hGoes.made.1
    refine ⟨o, hHere, hMade, ?_⟩
    intro choice hMem limit hSome
    exact
      Errand.keepsTo_iff.mpr hLimit choice
        (hMade.subset hMem) limit hSome
  · intro hLeaves
    have hSome : Command.defaultTimeoutMs ≠ 0 := by decide
    have hFive :
        Command.defaultTimeoutMs.toNat =
            c.connectionTimeoutSecs.toNat * 1000 ↔
          c.connectionTimeoutSecs = 5 := by
      have hDefault : Command.defaultTimeoutMs.toNat = 5000 :=
        rfl
      have hWord : (5 : UInt64).toNat = 5 := rfl
      rw [← UInt64.toNat_inj]
      omega
    rw [hKeeps, hLeaves.timeoutMs, or_iff_right hSome, hFive]
  · intro q anchors connectLimit hMem
    rw [Errand.connectLimit_of_mem_choices hMem]
    exact Order.defaultTimeout_of_settings hSettings

/- An order for a client without files. -/
def unfiled
    (c : Config) : Order :=
  { config := c
    checked := fun _ => .error .notFound
    loaded := fun _ => .error .notFound }

/- Calls may take a minute. -/
def patient : Order :=
  unfiled { Config.default with connectionTimeoutSecs := 60 }

/- All calls of the client may take two seconds. -/
def hasty : Order :=
  unfiled
    { Config.default with
      connectionTimeoutSecs := 60
      clientTimeoutSecs := some 2 }

/- The settings of a client that is patient. -/
def patientSettings : ClientSettings :=
  { homeSettings with
    serverName := "cmdlink"
    host := "localhost"
    defaultTimeoutMs := patient.config.defaultTimeoutMs
    maxMessageSize := patient.config.maxMessageSize
    bufferSize := patient.config.fileServer.bufferSize }

/- The configuration is accepted, and these come of it. -/
theorem settings_patient :
    patient.settings = .ok patientSettings :=
  Order.settings_eq_ok_iff.mpr ⟨rfl, rfl⟩

/- A client becomes hasty between two calls. -/
def haste : List Event :=
  [.call 0, .renewal 0, .renewal 0, .renewal 0, .call 1]

/-
  The first call should take a minute, and does not.  The
  second one takes the two seconds that it should take.
-/
theorem call_limits_haste :
    let s := start patientSettings contendedCalls [hasty]
    let settings := latest patientSettings (s.installs haste)
    patient.settings = .ok patientSettings ∧
      ¬ (Errand.command .health).KeepsTo patientSettings
        60000 ∧
      (Errand.command .stop).KeepsTo settings 2000 := by
  intro s settings
  have hLimits :=
    call_limits contendedCalls [hasty] haste settings_patient
  refine ⟨settings_patient, ?_, ?_⟩
  · rcases hLimits 0 _ _ [] haste.tail rfl rfl (by decide) with
      ⟨-, -, hHealth, -⟩
    intro hMinute
    exact absurd ((hHealth .health).mp hMinute) (by decide)
  · rcases hLimits 1 _ _ (haste.take 4) [] rfl rfl
      (by decide) with
      ⟨-, -, hStop, -⟩
    exact (hStop .stop).mpr (.inl rfl)

/-
  A configuration does not give its limit to all calls for
  which nobody sets one.
-/
theorem not_forall_keepsTo :
    ¬ ∀ (order : Order) (s : ClientSettings) (e : Errand),
      order.settings = .ok s →
      e.LeavesLimit →
        e.KeepsTo s order.config.callLimit := by
  intro hAll
  have hKeeps :=
    hAll patient patientSettings (.command .health)
      settings_patient .health
  rw [Errand.keepsTo_iff] at hKeeps
  exact absurd hKeeps (by decide)

end Session

end Courier
