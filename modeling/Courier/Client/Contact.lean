import Courier.Client.Session

/-
  Whom a call turns to, and what it says before it waits.

  A call says all that it has to say before it reads, so it
  can be made on a network in which the answer is known
  already.

  Key definitions include:
    * `Contact`
    * `Errand.contact?`
    * `Network.silent`
    * `Network.Known`
-/

------------------------------------------------------------
-- Contacts
------------------------------------------------------------

namespace Courier

/- Whom a call turns to, how long for, and with what. -/
inductive Contact where
| socket :
    (host : String) → (port : UInt16) →
    (trust : Option Tls.Trust) → (limit : Nat) →
    (sent : Bytes) → Contact
| web :
    (host : String) → (port : UInt16) → (https : Bool) →
    (endpoint : String) → Web.Request → Contact

/- A network in which every connection ends at once. -/
def Network.silent : Network :=
  { connect := fun _ _ _ _ =>
      .ok
        { writer := .endless
          reply := fun _ => [] }
    post := fun _ => .error (.refused .notFound) }

namespace Contact

/- A connection for a command. -/
def ofSent
    (s : ClientSettings)
    (c : Command)
    (sent : Bytes) : Contact :=
  .socket c.host c.port s.trust (s.timeLimit c) sent

end Contact

/- The contact of a call, if it gets as far as that. -/
def Errand.contact?
    (files : LocalFiles)
    (s : ClientSettings)
    (e : Errand) : Option Contact :=
  let c := e.stamped s
  let silent := Network.silent
  match e with
  | .command _ =>
      match s.route c with
      | .socket =>
          some (.ofSent s c (Wire.bySocket silent s c).sent)
      | .tunnel =>
          some
            (.web c.host s.webPort s.https s.endpoint
              (Wire.request s c))
  | .upload u =>
      match u.source.map files with
      | some (.ok _) =>
          some
            (.ofSent s c (Transfer.upload silent files s u).sent)
      | _ => none
  | .download .. =>
      some (.ofSent s c (Wire.dial silent s c).sent)

end Courier

------------------------------------------------------------
-- Known Answers
------------------------------------------------------------

namespace Courier

namespace Network

/- What came of a contact. -/
inductive Known where
| nothing : Known
| unreached : Connection.Fault → Known
| arrived : Stream.Reader → Known
| unanswered : Web.Fault → Known
| answered : Web.Response → Known

/- A network in which nothing else can be reached. -/
def ofKnown
    (k : Known) : Network :=
  { connect := fun _ _ _ _ =>
      match k with
      | .arrived r =>
          .ok
            { writer := .endless
              reply := fun _ => r }
      | .unreached fault => .error fault
      | _ => .error (.refused .notFound)
    post := fun _ =>
      match k with
      | .answered p => .ok p
      | .unanswered fault => .error fault
      | _ => .error (.refused .notFound) }

end Network

end Courier
