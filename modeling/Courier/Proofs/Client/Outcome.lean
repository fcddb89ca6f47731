import Courier.Proofs.Client.Fetching
import Courier.Proofs.Settings.Acceptance

/-
  What a client makes of whatever happens to its command.

  The command to stop always has an answer.  The question
  whether a server is alive has one as soon as the server
  takes it, and nothing that comes back can change it.  All
  other commands have the answer that their reply spells,
  and none if it spells none.

  Key definitions include:
    * `Wire.Opens`
    * `Wire.Reaches`
    * `Wire.Replies`
    * `Wire.Returns`

  Key theorems include:
    * `Wire.dial_eq_ok_iff`
    * `Wire.replies_iff`
    * `Wire.send_eq_ok_iff`
    * `Communicator.send_outcome`
-/

------------------------------------------------------------
-- Replies
------------------------------------------------------------

namespace Courier

namespace Wire

/-
  The client connects to the server of a command and writes
  the frame of the command.  That leaves the connection as
  it is then.
-/
def Opens
    (net : Network)
    (s : ClientSettings)
    (c : Command)
    (k : Connection) : Prop :=
  ∃ opened,
    net.connect c.host c.port s.trust (s.timeLimit c) =
        .ok opened ∧
      (Frame.writeCommand (s.timeLimit c) opened.writer
        c).outcome = some (.ok ()) ∧
      k =
        { opened with
          writer :=
            (Frame.writeCommand (s.timeLimit c) opened.writer
              c).writer }

/- The endpoint responds to a command without a complaint. -/
structure Responds
    (net : Network)
    (s : ClientSettings)
    (c : Command)
    (p : Web.Response) : Prop where
  posted : net.post (request s c) = .ok p
  status : p.status = 200 ∨ p.status = 204

/- A command reaches its server by the given way. -/
def Reaches
    (net : Network)
    (s : ClientSettings)
    (c : Command) : Route → Prop
  | .socket => ∃ k, Opens net s c k
  | .tunnel => ∃ p, Responds net s c p

/-
  What comes back by the given way spells the answer: the
  first frame that arrives in time, or the body of the
  response.
-/
def Replies
    (net : Network)
    (s : ClientSettings)
    (c : Command)
    (a : Answer) : Route → Prop
  | .socket =>
      ∃ k line frame,
        Opens net s c k ∧
          Frame.IsFrame s.maxMessageSize.toNat line frame ∧
          frame <+: (k.reader.delivery (s.timeLimit c)).bytes ∧
          Answer.ofLine line = .ok a
  | .tunnel =>
      ∃ p bytes,
        Responds net s c p ∧
          p.body = .ok bytes ∧
          Answer.ofJson
              (String.ofList (Utf8.decodeLossy bytes)) =
            .ok a

variable {net : Network}
variable {s : ClientSettings}
variable {c : Command}
variable {a : Answer}

end Wire

end Courier

------------------------------------------------------------
-- What Comes Back
------------------------------------------------------------

namespace Courier

namespace Wire

variable {net : Network}
variable {s : ClientSettings}
variable {c : Command}
variable {a : Answer}

/-
  What a client finds in that which comes back after it has
  reached the server by the given way.
-/
def Returns
    (net : Network)
    (s : ClientSettings)
    (c : Command)
    (got : Except TransportError Answer) : Route → Prop
  | .socket =>
      ∃ k, Opens net s c k ∧ got = (receive s c k).map Prod.fst
  | .tunnel =>
      ∃ p, Responds net s c p ∧ got = answerOf c s p

/- To dial is to open a connection. -/
theorem dial_eq_ok_iff
    {k : Connection} :
    (dial net s c).outcome = .ok k ↔ Opens net s c k := by
  rw [outcome_dial, bind_eq_ok_iff]
  constructor
  · rintro ⟨opened, hReach, hSay⟩
    unfold reach at hReach
    unfold say at hSay
    dsimp only at hReach hSay
    split at hReach
    · cases hReach
    next k' hConnect =>
      cases hReach
      split at hSay
      · next hWritten =>
          cases hSay
          exact ⟨_, hConnect, hWritten, rfl⟩
      · cases hSay
      · cases hSay
  · rintro ⟨opened, hConnect, hWritten, rfl⟩
    refine ⟨opened, ?_, ?_⟩
    · simp only [reach, hConnect]
    · simp only [say, hWritten]

/- A server is reached if something comes back, or nothing. -/
theorem reaches_iff
    {route : Route} :
    Reaches net s c route ↔
      ∃ got, Returns net s c got route := by
  cases route with
  | socket =>
      constructor
      · rintro ⟨k, hOpens⟩
        exact ⟨_, k, hOpens, rfl⟩
      · rintro ⟨got, k, hOpens, -⟩
        exact ⟨k, hOpens⟩
  | tunnel =>
      constructor
      · rintro ⟨p, hResponds⟩
        exact ⟨_, p, hResponds, rfl⟩
      · rintro ⟨got, p, hResponds, -⟩
        exact ⟨p, hResponds⟩

/- An answer is received exactly if its frame arrives. -/
theorem receive_eq_ok_iff
    {k : Connection} :
    (receive s c k).map Prod.fst = .ok a ↔
      ∃ line frame,
        Frame.IsFrame s.maxMessageSize.toNat line frame ∧
          frame <+: (k.reader.delivery (s.timeLimit c)).bytes ∧
          Answer.ofLine line = .ok a := by
  rw [← Frame.readMessage_eq_ok_iff]
  unfold receive Frame.readAnswer
  dsimp only
  split
  · next hGot => simp [hGot, Except.map]
  · next hGot => simp [hGot, Except.map]
  · next hGot => simp [hGot, Except.map]

/- A response has an answer exactly if its body spells it. -/
theorem answerOf_eq_ok_iff
    {p : Web.Response} :
    answerOf c s p = .ok a ↔
      ∃ bytes,
        p.body = .ok bytes ∧
          Answer.ofJson
              (String.ofList (Utf8.decodeLossy bytes)) =
            .ok a := by
  unfold answerOf Web.Response.text
  cases p.body with
  | error fault => simp
  | ok bytes =>
      simp only [Except.ok.injEq, exists_eq_left']
      cases Answer.ofJson
          (String.ofList (Utf8.decodeLossy bytes)) with
      | error e => simp
      | ok a' => simp

/- A reply is what comes back if an answer does. -/
theorem replies_iff
    {route : Route} :
    Replies net s c a route ↔
      Returns net s c (.ok a) route := by
  cases route with
  | socket =>
      constructor
      · rintro ⟨k, line, frame, hOpens, hReply⟩
        exact
          ⟨k, hOpens,
            (receive_eq_ok_iff.mpr ⟨line, frame, hReply⟩).symm⟩
      · rintro ⟨k, hOpens, hGot⟩
        rcases receive_eq_ok_iff.mp hGot.symm with
          ⟨line, frame, hReply⟩
        exact ⟨k, line, frame, hOpens, hReply⟩
  | tunnel =>
      constructor
      · rintro ⟨p, bytes, hResponds, hReply⟩
        exact
          ⟨p, hResponds,
            (answerOf_eq_ok_iff.mpr ⟨bytes, hReply⟩).symm⟩
      · rintro ⟨p, hResponds, hGot⟩
        rcases answerOf_eq_ok_iff.mp hGot.symm with
          ⟨bytes, hReply⟩
        exact ⟨p, bytes, hResponds, hReply⟩

end Wire

end Courier

------------------------------------------------------------
-- What Becomes of It
------------------------------------------------------------

namespace Courier

namespace Wire

variable {net : Network}
variable {s : ClientSettings}
variable {c : Command}
variable {a : Answer}

/- Whatever a server says of its health, it is alive. -/
theorem status_healthOf
    {ε : Type}
    (got : Except ε Answer) :
    (healthOf got).status = .health := by
  cases got with
  | error e => rfl
  | ok a =>
      by_cases hStatus : a.status = .health
      · simp [healthOf, hStatus]
      · simp only [healthOf, if_neg hStatus]
        rfl

/- Nobody asks for the health of a server to stop it. -/
theorem isStop_of_isHealth
    (hHealth : c.isHealth) :
    c.isStop = false := by
  have hNe :
      (Command.healthVerb == Command.stopVerb) = false := by
    decide
  simp only [Command.isHealth, Command.hasVerb, Bool.and_eq_true,
    beq_iff_eq] at hHealth
  simp only [Command.isStop, Command.hasVerb, hHealth.2, hNe,
    Bool.and_false]

/- Nobody waits for what comes back after a stop. -/
theorem concluded_of_isStop
    (got : Except TransportError Answer)
    (hStop : c.isStop) :
    concluded c got = .ok .stop := by
  rw [concluded, if_pos hStop]

/- A server that was reached is alive. -/
theorem concluded_of_isHealth
    (got : Except TransportError Answer)
    (hHealth : c.isHealth) :
    concluded c got = .ok (healthOf got) := by
  have hOther : ¬ c.isStop = true := by
    simp [isStop_of_isHealth hHealth]
  rw [concluded, if_neg hOther, if_pos hHealth]

/- Otherwise the answer is what comes back. -/
theorem concluded_of_neither
    (got : Except TransportError Answer)
    (hStop : c.isStop = false)
    (hHealth : c.isHealth = false) :
    concluded c got = got := by
  simp only [concluded, hStop, hHealth, Bool.false_eq_true,
    if_false]

/-
  A client has an answer exactly if it reaches the server,
  and makes of what comes back what its command asks for.
-/
theorem send_eq_ok_iff :
    (Wires.ofNetwork net).send s c = .ok a ↔
      ∃ got,
        Returns net s c got (s.route c) ∧
          concluded c got = .ok a := by
  unfold Wires.send
  cases s.route c with
  | socket =>
      have hSocket :
          (Wires.ofNetwork net).socket s c =
            (bySocket net s c).outcome := rfl
      simp only [hSocket, outcome_bySocket, bind_eq_ok_iff,
        dial_eq_ok_iff]
      constructor
      · rintro ⟨k, hOpens, hAnswer⟩
        exact ⟨_, ⟨k, hOpens, rfl⟩, hAnswer⟩
      · rintro ⟨got, ⟨k, hOpens, rfl⟩, hAnswer⟩
        exact ⟨k, hOpens, hAnswer⟩
  | tunnel =>
      have hTunnel :
          (Wires.ofNetwork net).tunnel s c =
            byTunnel net s c := rfl
      simp only [hTunnel, byTunnel_eq, bind_eq_ok_iff]
      constructor
      · rintro ⟨p, hPost, hRead⟩
        unfold post at hPost
        unfold read at hRead
        dsimp only at hPost
        split at hPost
        · cases hPost
        next p' hPosted =>
          cases hPost
          split at hRead
          · next hStatus =>
              exact ⟨_, ⟨p, ⟨hPosted, hStatus⟩, rfl⟩, hRead⟩
          · cases hRead
      · rintro ⟨got, ⟨p, hResponds, rfl⟩, hAnswer⟩
        refine ⟨p, ?_, ?_⟩
        · simp only [post, hResponds.posted]
        · simp only [read, if_pos hResponds.status, hAnswer]

end Wire

end Courier

------------------------------------------------------------
-- Outcomes
------------------------------------------------------------

namespace Courier

namespace Communicator

open Wire

variable {w : Wires}
variable {s : ClientSettings}
variable {c : Command}

/- An answer that the server gave is passed on. -/
theorem send_of_ok
    {a : Answer}
    (hSent : w.send s (s.stamp c) = .ok a) :
    send w s c = .ok a := by
  simp only [send, hSent]

/- Only the command to stop has an answer without help. -/
theorem send_of_error
    {e : TransportError}
    (hSent : w.send s (s.stamp c) = .error e) :
    send w s c =
      if c.isStop then .ok (unreachable e) else .error e := by
  have hStop : (s.stamp c).isStop = c.isStop := rfl
  simp only [send, hSent, hStop]

/- All other commands have the outcome of their way. -/
theorem send_of_not_isStop
    (hOther : c.isStop = false) :
    send w s c = w.send s (s.stamp c) := by
  cases hSent : w.send s (s.stamp c) with
  | error e =>
      rw [send_of_error hSent, hOther]
      rfl
  | ok a => exact send_of_ok hSent

/-
  Whatever a network does, the command to stop has an answer
  that says so.  The question for the health of a server has
  an answer exactly if the command reaches the server, and
  the answer says that it is alive.  All other commands have
  exactly the answer that their reply spells.
-/
theorem send_outcome
    (net : Network)
    (s : ClientSettings)
    (c : Command) :
    let m := s.stamp c
    let outcome := send (.ofNetwork net) s c
    (c.isStop →
      ∃ a, outcome = .ok a ∧ a.status = .stop) ∧
    (c.isHealth →
      ((∃ a, outcome = .ok a) ↔
        Reaches net s m (s.route m)) ∧
      ∀ a, outcome = .ok a → a.status = .health) ∧
    (c.isStop = false →
      c.isHealth = false →
        ∀ a,
          outcome = .ok a ↔ Replies net s m a (s.route m)) := by
  intro m outcome
  refine ⟨fun hStop => ?_, fun hHealth => ?_, ?_⟩
  · cases hSent : (Wires.ofNetwork net).send s m with
    | error e =>
        have hOutcome : outcome = .ok (unreachable e) :=
          (send_of_error hSent).trans (if_pos hStop)
        exact ⟨unreachable e, hOutcome, rfl⟩
    | ok a =>
        rcases send_eq_ok_iff.mp hSent with ⟨got, -, hAnswer⟩
        have hStopped : concluded m got = .ok .stop :=
          concluded_of_isStop got hStop
        rw [hStopped] at hAnswer
        cases hAnswer
        exact ⟨.stop, send_of_ok hSent, rfl⟩
  · have hOutcome :
        outcome = (Wires.ofNetwork net).send s m :=
      send_of_not_isStop (isStop_of_isHealth hHealth)
    have hAlive (got : Except TransportError Answer) :
        concluded m got = .ok (healthOf got) :=
      concluded_of_isHealth got hHealth
    simp only [hOutcome, send_eq_ok_iff, reaches_iff, hAlive]
    constructor
    · constructor
      · rintro ⟨a, got, hReturns, -⟩
        exact ⟨got, hReturns⟩
      · rintro ⟨got, hReturns⟩
        exact ⟨_, got, hReturns, rfl⟩
    · rintro a ⟨got, -, hAnswer⟩
      cases hAnswer
      exact status_healthOf got
  · intro hStop hHealth a
    have hOutcome :
        outcome = (Wires.ofNetwork net).send s m :=
      send_of_not_isStop hStop
    have hPlain (got : Except TransportError Answer) :
        concluded m got = got :=
      concluded_of_neither got hStop hHealth
    simp only [hOutcome, send_eq_ok_iff, replies_iff, hPlain,
      exists_eq_right]

/- A server that says that a file is coming. -/
def heraldic : Network :=
  Transfer.telling (.ofBytes Transfer.heralding)

/- A question that is neither about health nor a stop. -/
def inquiry : Command :=
  .make "log" "LOG"

/-
  Where nobody can be reached, the command to stop has its
  answer.  A server that talks of files is alive, and what it
  says answers every other question.
-/
theorem send_outcome_heraldic :
    let s := Session.homeSettings
    (∃ a,
      send (.ofNetwork Session.seclusion.net) s .stop = .ok a ∧
        a.status = .stop) ∧
    (∃ a,
      send (.ofNetwork heraldic) s .health = .ok a ∧
        a.status = .health) ∧
    ∃ a,
      send (.ofNetwork heraldic) s inquiry = .ok a ∧
        a.status = .fileOk ∧
        Replies heraldic s (s.stamp inquiry) a .socket := by
  intro s
  rcases send_outcome Session.seclusion.net s .stop with
    ⟨hStop, -, -⟩
  rcases send_outcome heraldic s .health with
    ⟨-, hHealth, -⟩
  rcases send_outcome heraldic s inquiry with ⟨-, -, hOther⟩
  refine ⟨hStop rfl, ?_, ?_⟩
  · rcases hHealth rfl with ⟨hReached, hAlive⟩
    rcases hReached.mpr ⟨_, _, rfl, by decide +kernel, rfl⟩ with
      ⟨a, hAnswer⟩
    exact ⟨a, hAnswer, hAlive a hAnswer⟩
  · have hStatus :
        (send (.ofNetwork heraldic) s inquiry).toOption.map
            Answer.status =
          some .fileOk := by
      decide +kernel
    cases hAnswer : send (.ofNetwork heraldic) s inquiry with
    | error e =>
        rw [hAnswer] at hStatus
        cases hStatus
    | ok a =>
        rw [hAnswer] at hStatus
        exact
          ⟨a, rfl, Option.some.inj hStatus,
            (hOther rfl rfl a).mp hAnswer⟩

end Communicator

end Courier
