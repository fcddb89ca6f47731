import Courier.Client.Communicator
import Courier.Client.Transfer

/-
  A client whose settings are replaced while calls go on.

  A call takes the settings that hold at its first step.  All
  that it chooses afterwards, one step after another, comes
  from these.  New settings are checked, drawn up and put in
  the place of the old ones, each at a step of its own.  The
  steps of calls and of renewals come in any order.

  Key definitions include:
    * `Surroundings`
    * `Errand`
    * `Errand.carryOut`
    * `Choice`
    * `Errand.choices`
    * `Errand.proceed`
    * `Ongoing`
    * `Order`
    * `Renewal`
    * `Session`
    * `Session.run`
    * `Session.installs`

  Key theorems include:
    * `Session.run_append`
-/

------------------------------------------------------------
-- Errands
------------------------------------------------------------

namespace Courier

/-
  What a call meets: whom it can reach, the local files, and
  the place for a download.
-/
structure Surroundings where
  net : Network
  files : LocalFiles
  place : Destination

/- What a call is for. -/
inductive Errand where
| command : Command → Errand
| upload : Upload → Errand
| download :
    (fileId : String) → (domain : Option String) → Errand

/- The outcome of a call, and the place for a download. -/
abbrev Finish := Except TransportError Answer × Destination

namespace Errand

/- The command of a call, with all that settings fill in. -/
def stamped
    (s : ClientSettings) : Errand → Command
  | .command c => s.stamp c
  | .upload u => s.stamp u.toCommand
  | .download fileId domain =>
      s.stamp (Download.request fileId domain)

/- The end of a call that goes by the given settings. -/
def carryOut
    (around : Surroundings)
    (s : ClientSettings) : Errand → Finish
  | .command c =>
      (Communicator.send (.ofNetwork around.net) s c,
        around.place)
  | .upload u =>
      ((Transfer.upload around.net around.files s u).outcome,
        around.place)
  | .download fileId domain =>
      let fetched :=
        Transfer.download around.net s fileId domain
          around.place
      (fetched.1.outcome, fetched.2)

end Errand

end Courier

------------------------------------------------------------
-- Stages
------------------------------------------------------------

namespace Courier

/- The local file that goes with a command. -/
structure Parcel where
  path : String
  bytes : Stream.Reader

/- No file goes with the command. -/
def Parcel.empty : Parcel :=
  { path := ""
    bytes := [] }

/- How far a call has come since it took its settings. -/
inductive Errand.Stage where
| stamped : Errand.Stage
| bound : Parcel → Errand.Stage
| connected : Parcel → Connection → Errand.Stage
| sent : Parcel → Connection → Errand.Stage
| copied : Connection → Errand.Stage
| answered : Answer → Stream.Reader → Errand.Stage
| posting : Errand.Stage
| responded : Web.Response → Errand.Stage

/- How far a call has come, with the settings that it took. -/
inductive Errand.Leg where
| ready : Errand.Leg
| going :
    ClientSettings → Command → Errand.Stage → Errand.Leg
| done :
    Except TransportError Answer → Destination → Errand.Leg

end Courier

------------------------------------------------------------
-- Choices
------------------------------------------------------------

namespace Courier

/- What a call takes from its settings at one of its steps. -/
inductive Choice where
| stamp : Command → Choice
| route : Route → (port : UInt16) → Choice
| connect :
    (host : String) → (port : UInt16) →
    (trust : Option Tls.Trust) → (limit : Nat) → Choice
| send : (limit : Nat) → Choice
| receive : (max limit : Nat) → Choice
| copy : (bufferSize limit : Nat) → Choice
| request :
    Web.Request → (anchors : List Tls.Certificate) →
    (connectLimit : UInt64) → Choice

namespace Choice

/- A connection for a command. -/
def dial
    (s : ClientSettings)
    (c : Command) : Choice :=
  .connect c.host c.port s.trust (s.timeLimit c)

/- The frame of a command. -/
def frame
    (s : ClientSettings)
    (c : Command) : Choice :=
  .send (s.timeLimit c)

/- The frame of an answer to a command. -/
def answer
    (s : ClientSettings)
    (c : Command) : Choice :=
  .receive s.maxMessageSize.toNat (s.timeLimit c)

/- The bytes of a file that goes with a command. -/
def bytes
    (s : ClientSettings)
    (c : Command) : Choice :=
  .copy s.bufferSize.toNat (s.timeLimit c)

/- A request over HTTP that carries a command. -/
def post
    (s : ClientSettings)
    (c : Command) : Choice :=
  .request (Wire.request s c) s.webAnchors s.defaultTimeoutMs

end Choice

namespace Errand

/- The choices once the command has been sent. -/
def choicesAfterSending
    (s : ClientSettings)
    (c : Command) : Errand → List Choice
  | .command _ => if c.isStop then [] else [.answer s c]
  | .upload _ => [.bytes s c, .answer s c]
  | .download .. => [.answer s c, .bytes s c]

/- The choices on the way over a socket. -/
def choicesBySocket
    (s : ClientSettings)
    (c : Command)
    (e : Errand) : List Choice :=
  .dial s c :: .frame s c :: e.choicesAfterSending s c

/- The choices that are left at a stage if nothing fails. -/
def choicesAt
    (s : ClientSettings)
    (c : Command)
    (e : Errand) : Stage → List Choice
  | .stamped =>
      match e with
      | .command _ =>
          let route := s.route c
          .route route (s.portOf c route) ::
            match route with
            | .socket => e.choicesBySocket s c
            | .tunnel => [.post s c]
      | .upload _ | .download .. => e.choicesBySocket s c
  | .bound _ => e.choicesBySocket s c
  | .connected .. => .frame s c :: e.choicesAfterSending s c
  | .sent .. => e.choicesAfterSending s c
  | .copied _ => [.answer s c]
  | .answered .. => [.bytes s c]
  | .posting => [.post s c]
  | .responded _ => []

/- All choices of a call, in the order it makes them. -/
def choices
    (s : ClientSettings)
    (e : Errand) : List Choice :=
  let c := e.stamped s
  .stamp c :: e.choicesAt s c .stamped

end Errand

end Courier

------------------------------------------------------------
-- Single Steps
------------------------------------------------------------

namespace Courier

namespace Wire

/- Connect to the server of a command. -/
def reach
    (net : Network)
    (s : ClientSettings)
    (c : Command) : Except TransportError Connection :=
  let limit := s.timeLimit c
  match net.connect c.host c.port s.trust limit with
  | .error fault => .error (fault.toError c.host c.port limit)
  | .ok k => .ok k

/- Send a command over a connection. -/
def say
    (s : ClientSettings)
    (c : Command)
    (k : Connection) : Except TransportError Connection :=
  let limit := s.timeLimit c
  let written := Frame.writeCommand limit k.writer c
  match written.outcome with
  | some (.ok ()) => .ok { k with writer := written.writer }
  | some (.error e) =>
      .error (.ofProtocol c.host c.port limit e)
  | none => .error (.timeout c.host c.port limit)

/- Have a command posted. -/
def post
    (net : Network)
    (s : ClientSettings)
    (c : Command) : Except TransportError Web.Response :=
  let q := request s c
  match net.post q with
  | .error fault =>
      .error (fault.toError c.host s.webPort q.url q.limit)
  | .ok p => .ok p

/- The end of a call that has a response. -/
def read
    (s : ClientSettings)
    (c : Command)
    (p : Web.Response) : Except TransportError Answer :=
  if p.status = 200 ∨ p.status = 204 then
    concluded c (answerOf c s p)
  else
    .error (.httpStatus (request s c).url p.status)

end Wire

/- Send the bytes of an upload over a connection. -/
def Transfer.hand
    (s : ClientSettings)
    (c : Command)
    (u : Upload)
    (parcel : Parcel)
    (k : Connection) : Except TransportError Connection :=
  let limit := s.timeLimit c
  let copied :=
    Copy.through u.size.toNat s.bufferSize.toNat limit
      parcel.bytes k.writer
  match copied.outcome with
  | .error fault =>
      .error (uploadFault c limit parcel.path fault)
  | .ok _ => .ok { k with writer := copied.writer }

/- Open the local file of an upload. -/
def Transfer.sourceOf
    (files : LocalFiles)
    (u : Upload) : Except TransportError Parcel :=
  match u.source with
  | none => .error (.localFile u.fileName noSource)
  | some path =>
      match files path with
      | .error e => .error (.localFile path e)
      | .ok bytes =>
          .ok
            { path := path
              bytes := bytes }

end Courier

------------------------------------------------------------
-- Calls
------------------------------------------------------------

namespace Courier

/- A step of a call: what it chooses, and how far it comes. -/
structure Errand.Turn where
  chosen : List Choice
  leg : Errand.Leg

namespace Errand

/-
  What becomes of the outcome of a call.  The command to stop
  always has an answer.
-/
def settle
    (c : Command)
    (outcome : Except TransportError Answer) :
    Errand → Except TransportError Answer
  | .command _ =>
      match outcome with
      | .ok a => .ok a
      | .error e =>
          if c.isStop then .ok (Communicator.unreachable e)
          else .error e
  | .upload _ | .download .. => outcome

section Stages

variable (around : Surroundings)
variable (s : ClientSettings)
variable (c : Command)
variable (e : Errand)

/- The call is over, and nothing was put into its place. -/
def ended
    (outcome : Except TransportError Answer) : Leg :=
  .done (e.settle c outcome) around.place

/- Go on with what a step gave, or end as it failed. -/
def onwards
    {α : Type}
    (got : Except TransportError α)
    (next : α → Stage) : Leg :=
  match got with
  | .ok a => .going s c (next a)
  | .error fault => e.ended around c (.error fault)

/- The step after the command has been filled in. -/
def depart : Turn :=
  match e with
  | .command _ =>
      let route := s.route c
      { chosen := [.route route (s.portOf c route)]
        leg :=
          match route with
          | .socket => .going s c (.bound .empty)
          | .tunnel => .going s c .posting }
  | .upload u =>
      { chosen := []
        leg :=
          e.onwards around s c
            (Transfer.sourceOf around.files u) .bound }
  | .download .. =>
      { chosen := []
        leg := .going s c (.bound .empty) }

/- The step after the command has been sent. -/
def converse
    (parcel : Parcel)
    (k : Connection) : Turn :=
  match e with
  | .command _ =>
      if c.isStop then
        { chosen := []
          leg := e.ended around c (.ok .stop) }
      else
        { chosen := [.answer s c]
          leg :=
            e.ended around c
              (Wire.concluded c
                ((Wire.receive s c k).map Prod.fst)) }
  | .upload u =>
      { chosen := [.bytes s c]
        leg :=
          e.onwards around s c (Transfer.hand s c u parcel k)
            .copied }
  | .download .. =>
      { chosen := [.answer s c]
        leg :=
          e.onwards around s c (Wire.receive s c k)
            fun got => .answered got.1 got.2 }

/- The step after a download has been answered. -/
def fetch
    (a : Answer)
    (r : Stream.Reader) : Turn :=
  if a.status ≠ .fileOk then
    { chosen := []
      leg := e.ended around c (.ok a) }
  else
    let collected :=
      Transfer.collect s c around.place a.dataLength.toNat r
    { chosen := [.bytes s c]
      leg := .done (collected.1.map fun _ => a) collected.2 }

/- The next step of a call. -/
def proceed : Stage → Turn
  | .stamped => e.depart around s c
  | .bound parcel =>
      { chosen := [.dial s c]
        leg :=
          e.onwards around s c (Wire.reach around.net s c)
            (.connected parcel) }
  | .connected parcel k =>
      { chosen := [.frame s c]
        leg :=
          e.onwards around s c (Wire.say s c k)
            (.sent parcel) }
  | .sent parcel k => e.converse around s c parcel k
  | .copied k =>
      { chosen := [.answer s c]
        leg :=
          e.ended around c
            ((Wire.receive s c k).map Prod.fst) }
  | .answered a r => e.fetch around s c a r
  | .posting =>
      { chosen := [.post s c]
        leg :=
          e.onwards around s c (Wire.post around.net s c)
            .responded }
  | .responded p =>
      { chosen := []
        leg := e.ended around c (Wire.read s c p) }

end Stages

end Errand

/- A call, and the choices that it has made. -/
structure Ongoing where
  errand : Errand
  around : Surroundings
  leg : Errand.Leg
  made : List Choice

/- A call that has not begun. -/
def Ongoing.fresh
    (e : Errand)
    (around : Surroundings) : Ongoing :=
  { errand := e
    around := around
    leg := .ready
    made := [] }

/-
  A call after one step.  The first step takes the settings
  that hold at the time, later ones do not look at them.
-/
def Ongoing.advance
    (current : ClientSettings)
    (o : Ongoing) : Ongoing :=
  match o.leg with
  | .ready =>
      let c := o.errand.stamped current
      { o with
        leg := .going current c .stamped
        made := o.made ++ [.stamp c] }
  | .going s c stage =>
      let turn := o.errand.proceed o.around s c stage
      { o with
        leg := turn.leg
        made := o.made ++ turn.chosen }
  | .done .. => o

end Courier

------------------------------------------------------------
-- Renewals
------------------------------------------------------------

namespace Courier

/-
  An order to replace the settings, with the files that are
  seen while the configuration is checked, and those that
  are seen while the settings are drawn up.
-/
structure Order where
  config : Config
  checked : FileView
  loaded : FileView

/- The settings that come of an order, if it is accepted. -/
def Order.settings
    (o : Order) : Except ConfigError ClientSettings :=
  match o.config.validate o.checked with
  | .error e => .error e
  | .ok () => ClientSettings.ofConfig o.config o.loaded

/- How far the replacement of the settings has come. -/
inductive Renewal.Stage where
| waiting : Renewal.Stage
| checked : Renewal.Stage
| drawn : ClientSettings → Renewal.Stage
| done : Except ConfigError Unit → Renewal.Stage

/- The settings are being replaced. -/
structure Renewal where
  order : Order
  stage : Renewal.Stage

namespace Renewal

/- A renewal that has not begun. -/
def fresh
    (order : Order) : Renewal :=
  { order := order
    stage := .waiting }

/- The settings that the next step puts in place, if any. -/
def installs?
    (r : Renewal) : Option ClientSettings :=
  match r.stage with
  | .drawn next => some next
  | .waiting | .checked | .done _ => none

/- A renewal after one step. -/
def advance
    (r : Renewal) : Renewal :=
  { r with
    stage :=
      match r.stage with
      | .waiting =>
          match r.order.config.validate r.order.checked with
          | .error e => .done (.error e)
          | .ok () => .checked
      | .checked =>
          match ClientSettings.ofConfig r.order.config
              r.order.loaded with
          | .error e => .done (.error e)
          | .ok next => .drawn next
      | .drawn _ => .done (.ok ())
      | .done result => .done result }

end Renewal

end Courier

------------------------------------------------------------
-- Sessions
------------------------------------------------------------

namespace Courier

/- The settings of a client, its calls and its renewals. -/
structure Session where
  current : ClientSettings
  calls : List Ongoing
  renewals : List Renewal

namespace Session

/- A client that has not done anything. -/
def start
    (s : ClientSettings)
    (calls : List (Errand × Surroundings))
    (orders : List Order) : Session :=
  { current := s
    calls := calls.map fun call => .fresh call.1 call.2
    renewals := orders.map .fresh }

/- Whose turn it is. -/
inductive Event where
| call : (index : Nat) → Event
| renewal : (index : Nat) → Event
deriving DecidableEq, Repr

/- The renewal that puts settings in place, and which. -/
def installs?
    (s : Session) : Event → Option (Nat × ClientSettings)
  | .call _ => none
  | .renewal index =>
      (s.renewals[index]?.bind Renewal.installs?).map
        (index, ·)

/- A session after one step. -/
def step
    (s : Session)
    (event : Event) : Session :=
  match event with
  | .call index =>
      { s with
        calls :=
          s.calls.modify index (Ongoing.advance s.current) }
  | .renewal index =>
      { s with
        current :=
          ((s.installs? event).map Prod.snd).getD s.current
        renewals :=
          s.renewals.modify index Renewal.advance }

/- A session after all steps. -/
def run
    (s : Session)
    (events : List Event) : Session :=
  events.foldl step s

/- All settings that are put in place, in their order. -/
def installs
    (s : Session) : List Event → List (Nat × ClientSettings)
  | [] => []
  | event :: rest =>
      (s.installs? event).toList ++
        (s.step event).installs rest

/- The settings that were put in place last, or the first. -/
def latest
    (initial : ClientSettings)
    (installed : List (Nat × ClientSettings)) :
    ClientSettings :=
  (installed.getLast?.map Prod.snd).getD initial

/- Runs can be cut anywhere. -/
theorem run_append
    (s : Session)
    (first second : List Event) :
    s.run (first ++ second) = (s.run first).run second :=
  List.foldl_append

end Session

end Courier
