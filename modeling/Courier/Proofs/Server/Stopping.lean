import Courier.Proofs.Server.Outcome
import Courier.Proofs.Stream.Delimiting

/-
  A server stops exactly if it was told to.

  A command to stop that is meant for the server, delivered
  in a whole frame or by a request with the key, is the same
  as a trigger.  Every other event leaves all signals alone.
  Every clone of the handle of a server is a handle of the
  same signal.

  Key definitions include:
    * `Server.Delivers`
    * `Server.IsStopFor`
    * `Server.IsStoppedBy`
    * `Move.Stops`

  Key theorems include:
    * `Server.command?_eq_some_iff`
    * `Server.step_of_isStoppedBy`
    * `Server.beyondFiles_step`
    * `Scene.isStopping_step`
    * `Scene.stops_iff_told`
-/

------------------------------------------------------------
-- Delivered Commands
------------------------------------------------------------

namespace Courier

variable {c : Command}
variable {e : Server.Event}

/- A request has its body taken if nothing refuses it. -/
theorem Tunnel.body_eq_ok_iff
    {t : Tunnel}
    {q : Tunnel.Request}
    {text : String} :
    t.body q = .ok text ↔
      t.isFor q = true ∧
        q.method = "POST" ∧
        q.body.length ≤ maxBody ∧
        t.admits q = true ∧
        q.body = Utf8.encode text.toList := by
  unfold body
  by_cases hFor : t.isFor q = true
  case neg => simp [hFor]
  by_cases hMethod : q.method = "POST"
  case neg => simp [hMethod, hFor]
  by_cases hSize : maxBody < q.body.length
  case pos =>
    have hNot := Nat.not_le.mpr hSize
    simp [hSize, hNot, hMethod, hFor]
  cases hChars : Utf8.decode q.body with
  | error fault =>
      have hNot : q.body ≠ Utf8.encode text.toList := by
        intro hBody
        rw [hBody, Utf8.decode_encode] at hChars
        cases hChars
      simp [hFor, hMethod, hSize, hNot]
  | ok chars =>
      have hBody := Utf8.decode_eq_ok_iff.mp hChars
      have hSame :
          String.ofList chars = text ↔
            q.body = Utf8.encode text.toList := by
        constructor
        · rintro rfl
          rw [String.toList_ofList, hBody]
        · intro hText
          rw [hText, Utf8.decode_encode] at hChars
          cases hChars
          exact String.ofList_toList
      by_cases hKey : t.admits q = true
      · simp [hFor, hMethod, hSize, hKey, hSame]
        omega
      · simp [hFor, hMethod, hSize, hKey]

namespace Server

/-
  A command is delivered: in a whole frame that is not too
  large and arrives in time, or as the body of a request at
  the endpoint that has the key.
-/
def Delivers
    (s : Server)
    (t : Option Tunnel) : Event → Command → Prop
  | .connection r _, c =>
      ∃ line frame,
        Frame.IsFrame s.maxMessageSize line frame ∧
          frame <+: (r.delivery s.readTimeout).bytes ∧
          Command.ofLine line = .ok c
  | .request q, c =>
      ∃ endpoint text,
        t = some endpoint ∧
          endpoint.isFor q = true ∧
          q.method = "POST" ∧
          q.body.length ≤ Tunnel.maxBody ∧
          endpoint.admits q = true ∧
          q.body = Utf8.encode text.toList ∧
          Command.ofJson text = .ok c
  | .trigger, _ => False

variable {s : Server}
variable {t : Option Tunnel}

/- A command is read from a connection that delivers it. -/
theorem request_eq_ok_iff
    {r : Stream.Reader}
    {w : Stream.Writer} :
    (s.request r).outcome = some (.ok c) ↔
      s.Delivers t (.connection r w) c := by
  have hLine (line : String) :=
    @Frame.read_eq_ok_iff s.maxMessageSize s.readTimeout line r
  simp only [request, Frame.readCommand, Frame.readMessage]
  constructor
  · intro hRead
    split at hRead
    · cases hRead
    · cases hRead
    · next line hOutcome =>
        rcases (hLine line).mp hOutcome with
          ⟨frame, hFrame, hFront⟩
        exact
          ⟨line, frame, hFrame, hFront, Option.some.inj hRead⟩
  · rintro ⟨line, frame, hFrame, hFront, hCommand⟩
    rw [(hLine line).mpr ⟨frame, hFrame, hFront⟩]
    exact congrArg some hCommand

/- A command arrives with the event that delivers it. -/
theorem command?_eq_some_iff :
    s.command? t e = some c ↔ s.Delivers t e c := by
  cases e with
  | trigger => simp [command?, Delivers]
  | connection r w =>
      rw [← request_eq_ok_iff, command?]
      cases (s.request r).outcome with
      | none => simp
      | some m => cases m <;> simp [Except.toOption]
  | request q =>
      cases t with
      | none => simp [command?, Delivers]
      | some endpoint =>
          have hBody (text : String) :=
            @Tunnel.body_eq_ok_iff endpoint q text
          have hOption {α ε : Type} (x : Except ε α) (a : α) :
              x.toOption = some a ↔ x = .ok a := by
            cases x <;> simp [Except.toOption]
          simp only [command?, Delivers, Option.bind_some,
            Option.bind_eq_some_iff, hOption, hBody]
          constructor
          · rintro ⟨text, ⟨hFor, hMethod, hRest⟩, hCommand⟩
            exact
              ⟨endpoint, text, rfl, hFor, hMethod, hRest.1,
                hRest.2.1, hRest.2.2, hCommand⟩
          · rintro ⟨_, text, hSame, hFor, hMethod, hSize, hKey,
              hText, hCommand⟩
            cases hSame
            exact
              ⟨text, ⟨hFor, hMethod, hSize, hKey, hText⟩,
                hCommand⟩

end Server

end Courier

------------------------------------------------------------
-- Commands to Stop
------------------------------------------------------------

namespace Courier

namespace Server

/- A command tells a server with a name to stop. -/
def IsStopFor
    (name : String)
    (c : Command) : Prop :=
  c.dispatcherId = Command.internalId ∧
    c.name = Command.stopVerb ∧
      (c.serverName = "" ∨ c.serverName = name)

/- An event tells a server to stop. -/
def IsStoppedBy
    (s : Server)
    (t : Option Tunnel)
    (e : Event) : Prop :=
  e = .trigger ∨
    ∃ c, s.Delivers t e c ∧ IsStopFor s.name c

variable {s : Server}
variable {c : Command}
variable {t : Option Tunnel}
variable {e : Event}

/- A command to stop is carried out by a trigger. -/
theorem process_of_isStopFor
    (hStop : IsStopFor s.name c) :
    s.process c = (.stop, s.trigger) := by
  rcases hStop with ⟨hInternal, hVerb, hServer⟩
  rw [process, wrongServer?, if_pos hServer]
  simp [Command.isInternal, hInternal, processInternal, hVerb]

/- Any other command changes nothing but files. -/
theorem beyondFiles_process
    (hNot : ¬ IsStopFor s.name c) :
    (s.process c).2.beyondFiles = s.beyondFiles := by
  have hProcesses := s.processes_process c
  generalize (s.process c).1 = a, (s.process c).2 = s'
    at hProcesses ⊢
  cases hProcesses with
  | stopped hHere hStop =>
      simp only [wrongServer?, ite_eq_left_iff, reduceCtorEq,
        imp_false, Decidable.not_not] at hHere
      simp only [Command.hasVerb, Command.isInternal,
        Bool.and_eq_true, beq_iff_eq] at hStop
      exact absurd ⟨hStop.1, hStop.2, hHere⟩ hNot
  | deleted _ _ => exact s.beyondFiles_deleteFile c
  | kept _ => rfl

/- A command to stop has no other verb. -/
theorem IsStopFor.hasVerb
    {verb : String}
    (hStop : IsStopFor s.name c)
    (hNe : Command.stopVerb ≠ verb) :
    c.hasVerb verb = false := by
  simp [Command.hasVerb, hStop.2.1, hNe]

/- An event that tells the server to stop triggers it. -/
theorem step_of_isStoppedBy
    (hStop : s.IsStoppedBy t e) :
    s.step t e = s.trigger := by
  rcases hStop with rfl | ⟨c, hDelivers, hStop⟩
  · rfl
  have hCommand := command?_eq_some_iff.mpr hDelivers
  have hNotUpload :=
    hStop.hasVerb
      (by decide : Command.stopVerb ≠ Command.uploadVerb)
  have hNotDownload :=
    hStop.hasVerb
      (by decide : Command.stopVerb ≠ Command.downloadVerb)
  have hSteps := s.steps_step t e
  generalize s.outcome? t e = o, s.step t e = s' at hSteps ⊢
  cases hSteps with
  | trigger => rfl
  | idle hNone _ =>
      rw [hNone] at hCommand
      cases hCommand
  | upload hRead hUpload =>
      rw [command?_of_read _ hRead] at hCommand
      cases hCommand
      rw [hNotUpload] at hUpload
      cases hUpload
  | download hRead _ hDownload =>
      rw [command?_of_read _ hRead] at hCommand
      cases hCommand
      rw [hNotDownload] at hDownload
      cases hDownload
  | command hOther _ =>
      rw [hOther] at hCommand
      cases hCommand
      rw [process_of_isStopFor hStop]

/- Any other event changes nothing but files. -/
theorem beyondFiles_step
    (hNot : ¬ s.IsStoppedBy t e) :
    (s.step t e).beyondFiles = s.beyondFiles := by
  have hOther (c : Command)
      (hCommand : s.command? t e = some c) :
      ¬ IsStopFor s.name c := by
    intro hStop
    rw [command?_eq_some_iff] at hCommand
    exact hNot (Or.inr ⟨c, hCommand, hStop⟩)
  have hSteps := s.steps_step t e
  generalize s.outcome? t e = o, s.step t e = s' at hSteps ⊢
  cases hSteps with
  | trigger => exact absurd (Or.inl rfl) hNot
  | idle _ _ => rfl
  | upload _ _ => exact s.beyondFiles_receive _ _
  | download _ _ _ => exact s.beyondFiles_send _ _
  | command hCommand _ =>
      exact beyondFiles_process (hOther _ hCommand)

/- An event leaves the setup alone. -/
theorem setup_step
    (s : Server)
    (t : Option Tunnel)
    (e : Event) :
    (s.step t e).setup = s.setup := by
  by_cases hStop : s.IsStoppedBy t e
  · rw [step_of_isStoppedBy hStop]
    rfl
  · exact setup_of_beyondFiles (beyondFiles_step hStop)

/-
  An event triggers the signal of the server if it tells the
  server to stop, and no other signal.
-/
theorem isTriggered_step
    (h : StopSignals.Handle) :
    (s.step t e).signals.isTriggered h = true ↔
      s.signals.isTriggered h = true ∨
        (h = s.stop ∧ s.IsStoppedBy t e) := by
  by_cases hStop : s.IsStoppedBy t e
  · rw [step_of_isStoppedBy hStop, trigger,
      StopSignals.isTriggered_trigger]
    simp [hStop, or_comm]
  · have hSame :=
      congrArg Server.signals (beyondFiles_step hStop)
    have hSignals : (s.step t e).signals = s.signals := hSame
    rw [hSignals]
    simp [hStop]

/- Who tells a server to stop depends on its setup alone. -/
theorem isStoppedBy_of_setup
    {s' : Server}
    (hSetup : s'.setup = s.setup) :
    s'.IsStoppedBy t e ↔ s.IsStoppedBy t e := by
  -- Files and signals are all that a setup leaves out.
  have hKept (s : Server) :
      s.setup.IsStoppedBy t e ↔ s.IsStoppedBy t e := by
    cases e <;> rfl
  rw [← hKept s', hSetup, hKept s]

end Server

end Courier

------------------------------------------------------------
-- Scenes
------------------------------------------------------------

namespace Courier

/- A move tells a server to stop. -/
def Move.Stops
    (s : Server)
    (t : Option Tunnel) : Move → Prop
  | .event e => s.IsStoppedBy t e
  | .clone _ => False
  | .trigger _ => True

namespace Scene

/- A scene with a server and handles of its signal only. -/
structure IsOf
    (s : Server)
    (x : Scene) : Prop where
  setup : x.server.setup = s.setup
  clones : ∀ h ∈ x.clones, h = s.stop

variable {s : Server}
variable {t : Option Tunnel}
variable {x : Scene}

/- The own handle of a server does not change. -/
theorem IsOf.stop
    (hOf : x.IsOf s) :
    x.server.stop = s.stop := by
  have hStop := congrArg Server.stop hOf.setup
  exact hStop

/- Every handle in a scene is that of the server. -/
theorem IsOf.handle
    (hOf : x.IsOf s)
    (i : Nat) :
    x.handle i = s.stop := by
  rw [Scene.handle, List.getD_eq_getElem?_getD]
  cases hClone : x.clones[i]? with
  | none => exact hOf.stop
  | some h =>
      exact hOf.clones h (List.mem_of_getElem? hClone)

/- Every handle sees whether the server is to stop. -/
theorem IsOf.sees
    (hOf : x.IsOf s)
    (i : Nat) :
    x.sees i = x.server.isStopping := by
  rw [Scene.sees, hOf.handle i, Server.isStopping, hOf.stop]

/- A move makes no handles of other signals. -/
theorem isOf_step
    (m : Move)
    (hOf : x.IsOf s) :
    (x.step t m).IsOf s := by
  cases m with
  | event e =>
      exact
        ⟨(x.server.setup_step t e).trans hOf.setup, hOf.clones⟩
  | clone i =>
      refine ⟨hOf.setup, ?_⟩
      intro h hMem
      rcases List.mem_append.mp hMem with hOld | hNew
      · exact hOf.clones h hOld
      · rw [List.mem_singleton.mp hNew]
        exact hOf.handle i
  | trigger i => exact ⟨hOf.setup, hOf.clones⟩

/-
  After a move the server is to stop if it was so before or
  the move tells it to.
-/
theorem isStopping_step
    (m : Move)
    (hOf : x.IsOf s) :
    (x.step t m).server.isStopping = true ↔
      x.server.isStopping = true ∨ m.Stops s t := by
  cases m with
  | event e =>
      have hStop := congrArg Server.stop
        (x.server.setup_step t e)
      have hSame : (x.server.step t e).stop = x.server.stop :=
        hStop
      simp only [step, Server.isStopping, hSame,
        Server.isTriggered_step, Move.Stops, true_and,
        Server.isStoppedBy_of_setup hOf.setup]
  | clone i => simp [step, Move.Stops]
  | trigger i =>
      simp [step, Move.Stops, Server.isStopping,
        StopSignals.isTriggered_trigger, hOf.handle, hOf.stop]

/- A run makes no handles of other signals. -/
theorem isOf_run
    (moves : List Move)
    (hOf : x.IsOf s) :
    (x.run t moves).IsOf s := by
  induction moves generalizing x with
  | nil => exact hOf
  | cons m moves ih => exact ih (isOf_step m hOf)

/-
  After a run the server is to stop if it was so before or
  one of the moves tells it to.
-/
theorem isStopping_run
    (moves : List Move)
    (hOf : x.IsOf s) :
    (x.run t moves).server.isStopping = true ↔
      x.server.isStopping = true ∨
        ∃ m ∈ moves, m.Stops s t := by
  induction moves generalizing x with
  | nil => simp [run]
  | cons m moves ih =>
      have hRest := ih (isOf_step (t := t) m hOf)
      rw [run] at hRest
      rw [run, List.foldl_cons, hRest, isStopping_step m hOf]
      simp only [List.mem_cons, exists_eq_or_imp, or_assoc]

/-
  A server is to stop after a run exactly if it was so at
  the start or was told to: by a trigger of some clone of
  its handle, or by a command to stop that is meant for it
  and was delivered.  Then it stays so, and every clone sees
  it.
-/
theorem stops_iff_told
    (t : Option Tunnel)
    (s : Server)
    (moves : List Move) :
    (((start s).run t moves).server.isStopping = true ↔
      s.isStopping = true ∨ ∃ m ∈ moves, m.Stops s t) ∧
    (∀ i,
      ((start s).run t moves).sees i =
        ((start s).run t moves).server.isStopping) ∧
    (∀ more,
      ((start s).run t moves).server.isStopping = true →
        ((start s).run t (moves ++ more)).server.isStopping =
          true) := by
  have hStart : (start s).IsOf s := by
    refine ⟨rfl, ?_⟩
    intro h hMem
    cases hMem
  refine ⟨isStopping_run moves hStart, ?_, ?_⟩
  · exact (isOf_run moves hStart).sees
  · intro more hStopping
    rw [isStopping_run _ hStart] at hStopping ⊢
    rcases hStopping with hBefore | ⟨m, hMem, hStops⟩
    · exact Or.inl hBefore
    · exact
        Or.inr ⟨m, List.mem_append_left more hMem, hStops⟩

/- The command to stop, in two pieces and with a byte more. -/
def stopInput : Stream.Reader :=
  [.data
      (Bytes.ofWord 39 ++
        Utf8.encode "#|#cmdlink-internal#|#STOP".toList),
    .delay 2000,
    .data (Utf8.encode "#|##|#0#|##|#".toList ++ [10, 7])]

/- A clone of a clone sees a stop, and it stays so. -/
theorem stops_iff_told_clone :
    ((start Server.fresh).run none
        [.clone 0, .clone 0]).server.isStopping =
        false ∧
      ((start Server.fresh).run none
          [.clone 0, .clone 0,
            .event (.connection stopInput .endless)]).sees 1 =
        true ∧
      ((start Server.fresh).run none
          ([.clone 0, .clone 0,
              .event (.connection stopInput .endless)] ++
            [.event (.connection [] .endless)]
          )).server.isStopping =
        true := by
  have hDelivers :
      Server.fresh.Delivers none
        (.connection stopInput .endless) Command.stop :=
    ⟨"#|#cmdlink-internal#|#STOP#|##|#0#|##|#", _,
      ⟨rfl, by decide, by decide⟩, ⟨[7], rfl⟩, rfl⟩
  have hStops :
      Move.Stops Server.fresh none
        (.event (.connection stopInput .endless)) :=
    Or.inr ⟨_, hDelivers, rfl, rfl, Or.inl rfl⟩
  rcases
    stops_iff_told none Server.fresh
      [.clone 0, .clone 0,
        .event (.connection stopInput .endless)] with
    ⟨hStopping, hSees, hStays⟩
  have hNow := hStopping.mpr (Or.inr ⟨_, by simp, hStops⟩)
  refine ⟨rfl, ?_, hStays _ hNow⟩
  rw [hSees, hNow]

end Scene

end Courier
