import Courier.Http.Form
import Courier.Http.Path
import Courier.Server.State

/-
  The endpoint of a server for commands over HTTP.

  A request is refused for its path first, then for its
  method, its size and its form, and last for its key.  Only
  then is its command carried out.

  Key definitions include:
    * `Tunnel`
    * `Tunnel.Request`
    * `Tunnel.Response`
    * `Tunnel.isFor`
    * `Tunnel.admits`
    * `Server.serve`
-/

------------------------------------------------------------
-- Requests
------------------------------------------------------------

namespace Courier

/- An endpoint and the key to it, which may be empty. -/
structure Tunnel where
  endpoint : String
  keyName : String
  key : String
deriving DecidableEq, Repr

namespace Tunnel

/- A request for a path, which may come with a query. -/
structure Request where
  method : String
  target : String
  body : Bytes
deriving DecidableEq, Repr

/- A response, with an answer only if all is well. -/
structure Response where
  status : Nat
  answer : Option Answer

/- The largest body of a request, in octets. -/
def maxBody : Nat := 2097152

/- The type of the body of a response. -/
def contentType : String := "application/json"

/- The body of a response. -/
def Response.body
    (p : Response) : String :=
  (p.answer.map Answer.toJson).getD ""

/- The pairs in the query of a request. -/
def Request.query
    (q : Request) : List (String × String) :=
  Form.decode (Path.queryOfTarget q.target)

/- The request is for the endpoint, which may be a pattern. -/
def isFor
    (t : Tunnel)
    (q : Request) : Bool :=
  Path.fits ('/' :: t.endpoint.toList)
    (Path.ofTarget q.target)

/- The request has the key, if one is needed. -/
def admits
    (t : Tunnel)
    (q : Request) : Bool :=
  t.key.isEmpty ||
    Form.value? q.query t.keyName == some t.key

/- A response without a body. -/
def refusal
    (status : Nat) : Response :=
  { status := status
    answer := none }

/- A response with an answer. -/
def reply
    (a : Answer) : Response :=
  { status := 200
    answer := some a }

/-
  The text of a request that may have its command carried
  out, or the response that refuses it.
-/
def body
    (t : Tunnel)
    (q : Request) : Except Response String :=
  if !t.isFor q then
    .error (refusal 404)
  else if q.method ≠ "POST" then
    .error (refusal 405)
  else if maxBody < q.body.length then
    .error (refusal 413)
  else
    match Utf8.decode q.body with
    | .error _ => .error (refusal 400)
    | .ok chars =>
        if t.admits q then .ok (String.ofList chars)
        else .error (refusal 403)

end Tunnel

end Courier

------------------------------------------------------------
-- Responses
------------------------------------------------------------

namespace Courier

namespace Server

/- Respond to a request at the endpoint. -/
def serve
    (s : Server)
    (t : Tunnel)
    (q : Tunnel.Request) : Tunnel.Response × Server :=
  match t.body q with
  | .error refusal => (refusal, s)
  | .ok text =>
      match Command.ofJson text with
      | .error e =>
          (Tunnel.reply (.error .malformed e.message), s)
      | .ok c =>
          let (answer, s') := s.process c
          (Tunnel.reply answer, s')

end Server

end Courier
