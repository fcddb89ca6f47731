import Courier.Proofs.Client.Call

/-
  Settings are replaced as a whole.

  A call that has taken its settings goes by them to its
  end, whatever becomes of the settings of the client in the
  meantime.  The settings of the client are those that were
  put in place last, and a renewal that fails might as well
  not have happened.

  Key definitions include:
    * `Renewal.IsSound`
    * `Session.SameBut`
    * `Session.without`

  Key theorems include:
    * `Session.goesBy_of_first`
    * `Session.renewal_run`
    * `Session.current_run`
    * `Session.SameBut.run`
    * `Session.renewals_are_atomic`
-/

------------------------------------------------------------
-- Calls in a Session
------------------------------------------------------------

namespace Courier

namespace Session

variable {s : Session}
variable {index : Nat}
variable {o : Ongoing}

/- The step of a call is a step of this call alone. -/
theorem calls_step
    (s : Session)
    (event : Event)
    (index : Nat) :
    (s.step event).calls[index]? =
      if event = .call index then
        s.calls[index]?.map (Ongoing.advance s.current)
      else
        s.calls[index]? := by
  cases event with
  | renewal other => rfl
  | call other =>
      unfold step
      simp only [List.getElem?_modify, Event.call.injEq]
      split
      · rfl
      · cases s.calls[index]? <;> rfl

/- A call without a turn stays as it is. -/
theorem calls_run_of_not_mem
    {events : List Event}
    (hNone : .call index ∉ events) :
    (s.run events).calls[index]? = s.calls[index]? := by
  induction events generalizing s with
  | nil => rfl
  | cons event rest ih =>
      rcases not_or.mp (mt List.mem_cons.mpr hNone) with
        ⟨hOther, hRest⟩
      exact
        (ih hRest).trans
          ((s.calls_step event index).trans
            (if_neg fun hSame => hOther hSame.symm))

/-
  A call that has taken its settings goes by them through
  every run, and each of its turns brings it closer to its
  end.
-/
theorem goesBy_run
    {settings : ClientSettings}
    (events : List Event)
    (hCall : s.calls[index]? = some o)
    (hGoes : o.GoesBy settings) :
    ∃ o',
      (s.run events).calls[index]? = some o' ∧
        o'.errand = o.errand ∧
        o'.around = o.around ∧
        o'.GoesBy settings ∧
        o'.leg.left ≤
          o.leg.left - events.count (.call index) := by
  induction events generalizing s o with
  | nil => exact ⟨o, hCall, rfl, rfl, hGoes, Nat.le_refl _⟩
  | cons event rest ih =>
      have hStep := s.calls_step event index
      rw [hCall] at hStep
      by_cases hTurn : event = .call index
      · rw [if_pos hTurn] at hStep
        rcases hGoes.advance s.current with ⟨hNext, hLess⟩
        rcases Ongoing.errand_advance s.current o with
          ⟨hErrand, hAround⟩
        rcases ih hStep hNext with
          ⟨o', hRun, hErrand', hAround', hGoes', hLeft⟩
        refine
          ⟨o', hRun, hErrand'.trans hErrand,
            hAround'.trans hAround, hGoes', ?_⟩
        rw [hTurn, List.count_cons_self]
        omega
      · rw [if_neg hTurn] at hStep
        rcases ih hStep hGoes with
          ⟨o', hRun, hErrand, hAround, hGoes', hLeft⟩
        refine ⟨o', hRun, hErrand, hAround, hGoes', ?_⟩
        rwa [List.count_cons_of_ne hTurn]

/-
  A call goes by the settings that held at its first turn.
-/
theorem goesBy_of_first
    {before : List Event}
    (after : List Event)
    (hNone : .call index ∉ before)
    (hCall : s.calls[index]? = some o)
    (hReady : o.leg = .ready)
    (hMade : o.made = []) :
    ∃ o',
      (s.run (before ++ .call index :: after)).calls[index]? =
          some o' ∧
        o'.errand = o.errand ∧
        o'.around = o.around ∧
        o'.GoesBy (s.run before).current ∧
        o'.leg.left ≤ 5 - after.count (.call index) := by
  have hBefore := (calls_run_of_not_mem hNone).trans hCall
  have hStep := (s.run before).calls_step (.call index) index
  rw [if_pos rfl, hBefore] at hStep
  rcases Ongoing.goesBy_first (s.run before).current hReady
    hMade with ⟨hGoes, hFive⟩
  rcases Ongoing.errand_advance (s.run before).current o with
    ⟨hErrand, hAround⟩
  rcases goesBy_run after hStep hGoes with
    ⟨o', hRun, hErrand', hAround', hGoes', hLeft⟩
  refine
    ⟨o', ?_, hErrand'.trans hErrand, hAround'.trans hAround,
      hGoes', hFive ▸ hLeft⟩
  rw [run_append]
  exact hRun

end Session

end Courier

------------------------------------------------------------
-- Renewals
------------------------------------------------------------

namespace Courier

namespace Renewal

/-
  What is known about a renewal: its result is that of its
  order, and so are the settings that it has drawn up.
-/
inductive IsSound : Renewal → Prop where
| waiting
    (order : Order) :
    IsSound
      { order := order
        stage := .waiting }
| checked
    {order : Order}
    (hChecked :
      order.settings =
        ClientSettings.ofConfig order.config order.loaded) :
    IsSound
      { order := order
        stage := .checked }
| drawn
    {order : Order}
    {next : ClientSettings}
    (hDrawn : order.settings = .ok next) :
    IsSound
      { order := order
        stage := .drawn next }
| done
    {order : Order}
    {result : Except ConfigError Unit}
    (hResult :
      result = order.settings.map fun _ => ()) :
    IsSound
      { order := order
        stage := .done result }

variable {r : Renewal}

/- A step of a renewal keeps what is known about it. -/
theorem IsSound.advance
    (hSound : r.IsSound) :
    r.advance.IsSound := by
  cases hSound with
  | waiting order =>
      unfold Renewal.advance
      dsimp only
      cases hCheck : order.config.validate order.checked with
      | error e =>
          refine .done ?_
          simp only [Order.settings, hCheck, Except.map]
      | ok u =>
          refine .checked ?_
          simp only [Order.settings, hCheck]
  | @checked order hChecked =>
      unfold Renewal.advance
      dsimp only
      cases hLoad :
        ClientSettings.ofConfig order.config order.loaded with
      | error e =>
          refine .done ?_
          rw [hChecked, hLoad]
          rfl
      | ok next => exact .drawn (hChecked.trans hLoad)
  | drawn hDrawn =>
      refine .done ?_
      rw [hDrawn]
      rfl
  | done hResult => exact .done hResult

/- Only what an order comes to is put in place. -/
theorem IsSound.settings
    {next : ClientSettings}
    (hSound : r.IsSound)
    (hInstalls : r.installs? = some next) :
    r.order.settings = .ok next := by
  cases hSound with
  | waiting => cases hInstalls
  | checked => cases hInstalls
  | drawn hDrawn =>
      cases hInstalls
      exact hDrawn
  | done => cases hInstalls

/- The result of a renewal is that of its order. -/
theorem IsSound.result
    {result : Except ConfigError Unit}
    (hSound : r.IsSound)
    (hDone : r.stage = .done result) :
    result = r.order.settings.map fun _ => () := by
  cases hSound with
  | waiting => cases hDone
  | checked => cases hDone
  | drawn => cases hDone
  | done hResult =>
      cases hDone
      exact hResult

/- A renewal succeeds by putting its settings in place. -/
theorem isDone_advance
    (r : Renewal) :
    r.advance.stage = .done (.ok ()) ↔
      r.stage = .done (.ok ()) ∨
        ∃ next, r.installs? = some next := by
  rcases r with ⟨order, stage⟩
  unfold advance installs?
  cases stage with
  | waiting =>
      dsimp only
      cases order.config.validate order.checked with
      | error e => simp
      | ok u => simp
  | checked =>
      dsimp only
      cases ClientSettings.ofConfig order.config
          order.loaded with
      | error e => simp
      | ok next => simp
  | drawn next => simp
  | done result => simp

end Renewal

namespace Session

variable {s : Session}

/- The step of a renewal is a step of this renewal alone. -/
theorem renewals_step
    (s : Session)
    (event : Event)
    (index : Nat) :
    (s.step event).renewals[index]? =
      if event = .renewal index then
        s.renewals[index]?.map Renewal.advance
      else
        s.renewals[index]? := by
  cases event with
  | call other => rfl
  | renewal other =>
      unfold step
      simp only [List.getElem?_modify, Event.renewal.injEq]
      split
      · rfl
      · cases s.renewals[index]? <;> rfl

/- A step puts in place what its renewal has drawn up. -/
theorem installs?_iff
    {event : Event}
    {index : Nat}
    {next : ClientSettings} :
    s.installs? event = some (index, next) ↔
      event = .renewal index ∧
        ∃ r,
          s.renewals[index]? = some r ∧
            r.installs? = some next := by
  cases event with
  | call other => simp [installs?]
  | renewal other =>
      simp only [installs?, Option.map_eq_some_iff,
        Prod.mk.injEq, Option.bind_eq_some_iff,
        Event.renewal.injEq]
      constructor
      · rintro ⟨next', ⟨r, hHere, hInstalls⟩, rfl, rfl⟩
        exact ⟨rfl, r, hHere, hInstalls⟩
      · rintro ⟨rfl, r, hHere, hInstalls⟩
        exact ⟨next, ⟨r, hHere, hInstalls⟩, rfl, rfl⟩

/-
  A renewal has its result through every run: it succeeds
  exactly if it puts settings in place, and these are what
  its order comes to.
-/
theorem renewal_run
    {index : Nat}
    {r : Renewal}
    (events : List Event)
    (hHere : s.renewals[index]? = some r)
    (hSound : r.IsSound) :
    ∃ r',
      (s.run events).renewals[index]? = some r' ∧
        r'.order = r.order ∧
        r'.IsSound ∧
        (r'.stage = .done (.ok ()) ↔
          r.stage = .done (.ok ()) ∨
            ∃ next, (index, next) ∈ s.installs events) ∧
        ∀ next,
          (index, next) ∈ s.installs events →
            r.order.settings = .ok next := by
  induction events generalizing s r with
  | nil =>
      exact
        ⟨r, hHere, rfl, hSound, by simp [installs],
          fun next hMem => nomatch hMem⟩
  | cons event rest ih =>
      have hStep := s.renewals_step event index
      rw [hHere] at hStep
      by_cases hTurn : event = .renewal index
      · rw [if_pos hTurn] at hStep
        rcases ih hStep hSound.advance with
          ⟨r', hRun, hOrder, hSound', hDone, hSettings⟩
        have hFirst (next : ClientSettings) :
            s.installs? event = some (index, next) ↔
              r.installs? = some next := by
          rw [installs?_iff]
          simp [hTurn, hHere]
        refine ⟨r', hRun, hOrder, hSound', ?_, ?_⟩
        · rw [hDone, r.isDone_advance, or_assoc,
            ← exists_or]
          simp only [installs, List.mem_append,
            Option.mem_toList, hFirst]
        · intro next hMem
          simp only [installs, List.mem_append,
            Option.mem_toList, hFirst] at hMem
          rcases hMem with hNow | hLater
          · exact hSound.settings hNow
          · exact hSettings next hLater
      · rw [if_neg hTurn] at hStep
        rcases ih hStep hSound with
          ⟨r', hRun, hOrder, hSound', hDone, hSettings⟩
        have hFirst (next : ClientSettings) :
            s.installs? event ≠ some (index, next) :=
          fun hInstalls => hTurn (installs?_iff.mp hInstalls).1
        refine ⟨r', hRun, hOrder, hSound', ?_, ?_⟩
        · rw [hDone]
          simp only [installs, List.mem_append,
            Option.mem_toList, hFirst, false_or]
        · intro next hMem
          simp only [installs, List.mem_append,
            Option.mem_toList, hFirst, false_or] at hMem
          exact hSettings next hMem

/- The settings of a client are those put in place last. -/
theorem current_run
    (s : Session)
    (events : List Event) :
    (s.run events).current =
      latest s.current (s.installs events) := by
  induction events generalizing s with
  | nil => rfl
  | cons event rest ih =>
      have hStep :
          (s.step event).current =
            ((s.installs? event).map Prod.snd).getD
              s.current := by
        cases event with
        | call index => rfl
        | renewal index => rfl
      have hRun :
          (s.run (event :: rest)).current =
            ((s.step event).run rest).current := rfl
      have hInstalls :
          s.installs (event :: rest) =
            (s.installs? event).toList ++
              (s.step event).installs rest := rfl
      rw [hRun, ih, hStep, hInstalls]
      unfold latest
      rw [List.getLast?_append]
      cases ((s.step event).installs rest).getLast? with
      | some last => rfl
      | none =>
          cases s.installs? event with
          | none => rfl
          | some first => rfl

end Session

end Courier

------------------------------------------------------------
-- Renewals that Put Nothing in Place
------------------------------------------------------------

namespace Courier

namespace Session

/- Two sessions differ in one renewal at most. -/
structure SameBut
    (index : Nat)
    (s t : Session) : Prop where
  current : s.current = t.current
  calls : s.calls = t.calls
  renewals :
    ∀ other,
      other ≠ index → s.renewals[other]? = t.renewals[other]?

variable {index : Nat}
variable {s t : Session}

/- A session does not differ from itself. -/
theorem SameBut.refl
    (index : Nat)
    (s : Session) :
    SameBut index s s :=
  { current := rfl
    calls := rfl
    renewals := fun _ _ => rfl }

/- Steps of others keep sessions the same. -/
theorem SameBut.step
    {event : Event}
    (hSame : SameBut index s t)
    (hOther : event ≠ .renewal index) :
    SameBut index (s.step event) (t.step event) := by
  have hRenewals :
      ∀ other,
        other ≠ index →
          (s.step event).renewals[other]? =
            (t.step event).renewals[other]? := by
    intro other hNe
    rw [renewals_step, renewals_step,
      hSame.renewals other hNe]
  cases event with
  | call other =>
      refine
        { current := hSame.current
          calls := ?_
          renewals := hRenewals }
      simp only [Session.step, hSame.current, hSame.calls]
  | renewal other =>
      have hNe : other ≠ index :=
        fun hEq => hOther (hEq ▸ rfl)
      refine
        { current := ?_
          calls := hSame.calls
          renewals := hRenewals }
      simp only [Session.step, installs?,
        hSame.renewals other hNe, hSame.current]

/- A turn that puts nothing in place does not matter. -/
theorem SameBut.skip
    (hSame : SameBut index s t)
    (hNone : s.installs? (.renewal index) = none) :
    SameBut index (s.step (.renewal index)) t := by
  refine
    { current := ?_
      calls := hSame.calls
      renewals := ?_ }
  · simp only [Session.step, hNone, Option.map_none,
      Option.getD_none]
    exact hSame.current
  · intro other hNe
    rw [renewals_step,
      if_neg fun hEq => hNe (Event.renewal.inj hEq).symm,
      hSame.renewals other hNe]

/- The turns of all others. -/
def without
    (index : Nat)
    (events : List Event) : List Event :=
  events.filter (· ≠ .renewal index)

/-
  A renewal that puts nothing in place can be left out of
  every run.
-/
theorem SameBut.run
    {events : List Event}
    (hSame : SameBut index s t)
    (hNone :
      ∀ next, (index, next) ∉ s.installs events) :
    SameBut index (s.run events)
      (t.run (without index events)) := by
  induction events generalizing s t with
  | nil => exact hSame
  | cons event rest ih =>
      have hLater :
          ∀ next,
            (index, next) ∉ (s.step event).installs rest :=
        fun next hMem =>
          hNone next (List.mem_append_right _ hMem)
      by_cases hTurn : event = .renewal index
      · subst hTurn
        -- The turn that is left out puts nothing in place.
        have hNow :
            s.installs? (.renewal index) = none := by
          cases hInstalls : s.installs? (.renewal index) with
          | none => rfl
          | some pair =>
              rcases pair with ⟨other, next⟩
              have hEvent := (installs?_iff.mp hInstalls).1
              cases hEvent
              refine absurd ?_ (hNone next)
              simp [installs, hInstalls]
        have hRest :
            without index (.renewal index :: rest) =
              without index rest := by
          simp [without]
        rw [hRest]
        exact ih (hSame.skip hNow) hLater
      · have hRest :
            without index (event :: rest) =
              event :: without index rest := by
          simp [without, hTurn]
        rw [hRest]
        exact ih (hSame.step hTurn) hLater

end Session

end Courier

------------------------------------------------------------
-- Atomic Renewals
------------------------------------------------------------

namespace Courier

namespace Session

/-
  A renewal that nothing comes between does what replacing
  the settings at once does.
-/
theorem run_alone
    (current : ClientSettings)
    (c : Config)
    (files : FileView) :
    let order : Order :=
      { config := c
        checked := files
        loaded := files }
    let x :=
      (start current [] [order]).run
        [.renewal 0, .renewal 0, .renewal 0]
    x.current = (Communicator.reload current c files).2 ∧
      x.renewals.map Renewal.stage =
        [.done (Communicator.reload current c files).1] := by
  intro order x
  have hStep (s : ClientSettings) (r : Renewal) :
      Session.step ⟨s, [], [r]⟩ (.renewal 0) =
        ⟨r.installs?.getD s, [], [r.advance]⟩ := by
    unfold step installs?
    dsimp only [List.getElem?_cons_zero, Option.bind_some]
    cases r.installs? with
    | none => rfl
    | some next => rfl
  simp only [x, run, start, List.map, List.foldl, hStep]
  unfold Communicator.reload ClientSettings.ofValid
  cases hCheck : c.validate files with
  | error e =>
      simp [Renewal.advance, Renewal.fresh, Renewal.installs?,
        order, hCheck]
  | ok u =>
      cases hLoad : ClientSettings.ofConfig c files with
      | error e =>
          simp [Renewal.advance, Renewal.fresh,
            Renewal.installs?, order, hCheck, hLoad]
      | ok next =>
          simp [Renewal.advance, Renewal.fresh,
            Renewal.installs?, order, hCheck, hLoad]

/-
  Renewals are atomic for calls.

  Whatever order the steps of calls and renewals come in, a
  call makes its choices, and ends, as the settings say that
  were put in place last before its first step.  A renewal
  puts in place what its order comes to if it succeeds, and
  if it fails, all calls are as if it had not happened.
-/
theorem renewals_are_atomic
    (initial : ClientSettings)
    (calls : List (Errand × Surroundings))
    (orders : List Order)
    (events : List Event) :
    let s := start initial calls orders
    let x := s.run events
    (∀ index e around,
      calls[index]? = some (e, around) →
      (.call index ∉ events →
        x.calls[index]? = some (.fresh e around)) ∧
      ∀ before after,
        events = before ++ .call index :: after →
        .call index ∉ before →
        let settings := latest initial (s.installs before)
        ∃ o,
          x.calls[index]? = some o ∧
            o.errand = e ∧
            o.around = around ∧
            o.made <+: e.choices settings ∧
            o.made ≠ [] ∧
            (∀ outcome place,
              o.leg = .done outcome place →
                (outcome, place) =
                  e.carryOut around settings) ∧
            (5 ≤ after.count (.call index) →
              ∃ outcome place,
                o.leg = .done outcome place)) ∧
    (∀ index order,
      orders[index]? = some order →
      ∃ r,
        x.renewals[index]? = some r ∧
          r.order = order ∧
          (∀ result,
            r.stage = .done result →
              result = order.settings.map fun _ => ()) ∧
          (r.stage = .done (.ok ()) ↔
            ∃ next, (index, next) ∈ s.installs events) ∧
          (∀ next,
            (index, next) ∈ s.installs events →
              order.settings = .ok next) ∧
          ∀ fault,
            r.stage = .done (.error fault) →
              (s.run (without index events)).calls =
                  x.calls ∧
                (s.run (without index events)).current =
                  x.current) ∧
    x.current = latest initial (s.installs events) := by
  intro s x
  refine ⟨?_, ?_, current_run s events⟩
  · intro index e around hCall
    have hFresh :
        s.calls[index]? = some (.fresh e around) := by
      simp only [s, start, List.getElem?_map, hCall,
        Option.map_some]
    refine
      ⟨fun hNone => (calls_run_of_not_mem hNone).trans hFresh,
        ?_⟩
    intro before after hEvents hFirst settings
    rcases goesBy_of_first after hFirst hFresh rfl rfl with
      ⟨o, hHere, hErrand, hAround, hGoes, hLeft⟩
    have hSettings : (s.run before).current = settings :=
      current_run s before
    rw [hSettings] at hGoes
    rw [← hEvents] at hHere
    subst hErrand hAround
    refine
      ⟨o, hHere, rfl, rfl, hGoes.made.1,
        hGoes.made.2, fun outcome place hDone =>
          hGoes.finish hDone,
        fun hTurns => hGoes.of_left ?_⟩
    omega
  · intro index order hOrder
    have hFresh :
        s.renewals[index]? = some (.fresh order) := by
      simp only [s, start, List.getElem?_map, hOrder,
        Option.map_some]
    rcases renewal_run events hFresh (.waiting order) with
      ⟨r, hHere, hSame, hSound, hDone, hSettings⟩
    have hInstalls :
        r.stage = .done (.ok ()) ↔
          ∃ next, (index, next) ∈ s.installs events := by
      rw [hDone]
      simp [Renewal.fresh]
    refine
      ⟨r, hHere, hSame, fun result hResult => ?_, hInstalls,
        hSettings, fun fault hFault => ?_⟩
    · exact (hSound.result hResult).trans (hSame ▸ rfl)
    · have hNone :
          ∀ next, (index, next) ∉ s.installs events := by
        intro next hMem
        rw [hInstalls.mpr ⟨next, hMem⟩] at hFault
        cases hFault
      have hLeftOut :=
        SameBut.run (SameBut.refl index s) hNone
      exact ⟨hLeftOut.calls.symm, hLeftOut.current.symm⟩

/- Nobody can be reached, and no file can be read. -/
def seclusion : Surroundings :=
  { net :=
      { connect := fun _ _ _ _ => .error .timedOut
        post := fun _ => .error .timedOut }
    files := fun _ => .error .notFound
    place := .ofContent "letter" none }

/- The settings of a client before any renewal. -/
def homeSettings : ClientSettings :=
  { serverName := "backend"
    host := "home"
    adminPort := 9777
    webPort := 8080
    mode := .sockets
    defaultTimeoutMs := 5000
    clientTimeoutSecs := none
    webOverride := false
    maxMessageSize := 524288
    bufferSize := 32768
    trust := none
    https := false
    webAnchors := []
    endpoint := "srvcmd"
    keyName := "apiKey"
    key := "" }

/- Two calls: for the health of the server, and to stop it. -/
def contendedCalls : List (Errand × Surroundings) :=
  [(.command .health, seclusion), (.command .stop, seclusion)]

/- Two orders: the checks reject only the first one. -/
def contendedOrders : List Order :=
  [{ config := { Config.default with serverName := "" }
     checked := fun _ => .error .notFound
     loaded := fun _ => .error .notFound },
    { config := { Config.default with host := "mirror" }
      checked := fun _ => .error .notFound
      loaded := fun _ => .error .notFound }]

/- The first call begins, and both renewals are made. -/
def contention : List Event :=
  [.call 0, .renewal 0, .renewal 1, .call 0, .renewal 1,
    .call 0, .renewal 1]

/- The second call begins, and the first one ends. -/
def relief : List Event :=
  [.call 1, .call 0, .call 1, .call 0, .call 0]

/-
  The first call goes by the old settings, the second one by
  the new ones, and the renewal that fails does not matter.
-/
theorem renewals_are_atomic_contended :
    let s :=
      start homeSettings contendedCalls contendedOrders
    let events := contention ++ relief
    let x := s.run events
    (∃ o outcome place,
      x.calls[0]? = some o ∧
        o.made <+:
          (Errand.command .health).choices homeSettings ∧
        o.leg = .done outcome place ∧
        (outcome, place) =
          (Errand.command .health).carryOut seclusion
            homeSettings) ∧
    (∃ o settings,
      x.calls[1]? = some o ∧
        settings.host = "mirror" ∧
        o.made ≠ [] ∧
        o.made <+: (Errand.command .stop).choices settings) ∧
    (s.run (without 0 events)).calls = x.calls ∧
    x.current.host = "mirror" := by
  intro s events x
  rcases renewals_are_atomic homeSettings contendedCalls
      contendedOrders events with
    ⟨hCalls, hOrders, hCurrent⟩
  refine ⟨?_, ?_, ?_, ?_⟩
  · rcases (hCalls 0 _ _ rfl).2 []
        (contention.tail ++ relief) rfl (by simp) with
      ⟨o, hHere, -, -, hMade, -, hFinish, hDone⟩
    rcases hDone (by decide) with ⟨outcome, place, hEnd⟩
    exact
      ⟨o, outcome, place, hHere, hMade, hEnd,
        hFinish outcome place hEnd⟩
  · rcases (hCalls 1 _ _ rfl).2 contention relief.tail rfl
        (by decide) with
      ⟨o, hHere, -, -, hMade, hSome, -⟩
    exact ⟨o, _, hHere, rfl, hSome, hMade⟩
  · rcases hOrders 0 _ rfl with
      ⟨r, hHere, -, -, -, -, hLeftOut⟩
    have hFailed :
        (s.run events).renewals[0]?.map Renewal.stage =
          some
            (.done
              (.error
                (.invalid (.setting .emptyServerName)))) := by
      rfl
    rw [hHere] at hFailed
    exact (hLeftOut _ (Option.some.inj hFailed)).1
  · rw [hCurrent]
    rfl

end Session

end Courier
