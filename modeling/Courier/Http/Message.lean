import Courier.Client.Network
import Courier.Server.Tunnel

/-
  Requests and responses as they are written on a
  connection: a first line, named fields, an empty line, and
  a body whose length one of the fields tells.

  Key definitions include:
    * `Http.Head`
    * `Http.Head.ofBytes?`
    * `Http.wanted`
    * `Web.Request.toBytes`
    * `Web.Response.ofBytes?`
    * `Tunnel.Request.ofBytes?`
    * `Tunnel.Response.toBytes`
-/

------------------------------------------------------------
-- Heads
------------------------------------------------------------

namespace Courier

namespace Http

/-
  What stands before a body: the words of the first line,
  the fields with their names in small letters, and the
  number of octets of it all.
-/
structure Head where
  words : List String
  fields : List (String × String)
  size : Nat
deriving DecidableEq, Repr

/- The end of a line. -/
def lineEnd : Bytes := [13, 10]

/- The number of octets up to the end of the empty line. -/
def headSize? : Bytes → Option Nat
  | 13 :: 10 :: 13 :: 10 :: _ => some 4
  | [] => none
  | _ :: rest => (headSize? rest).map (· + 1)

/- The field in a line. -/
def field
    (line : List Char) : String × String :=
  match Split.cut? ':' line with
  | some (name, value) =>
      (String.ofList (name.map Char.toLower),
        Blank.trimText (String.ofList value))
  | none => (String.ofList line, "")

/- The lines of a head, without their ends. -/
def lines
    (bytes : Bytes) : List (List Char) :=
  let chars := bytes.map fun b => Char.ofNat b.toNat
  (Split.pieces '\n' (chars.filter (· != '\r'))).filter
    (!·.isEmpty)

namespace Head

/- The head that some bytes start with, if it is complete. -/
def ofBytes?
    (bytes : Bytes) : Option Head :=
  match headSize? bytes with
  | none => none
  | some size =>
      match lines (bytes.take size) with
      | [] => none
      | first :: rest =>
          some
            { words := (Split.pieces ' ' first).map String.ofList
              fields := rest.map field
              size := size }

/- The length of the body, if a field tells it. -/
def bodyLength?
    (h : Head) : Option Nat :=
  (h.fields.lookup "content-length").bind
    Numeral.natural64?

end Head

/-
  How many octets a message has that starts with some bytes,
  as far as they tell.  A body is awaited up to a limit.
-/
def wanted
    (limit : Nat)
    (bytes : Bytes) : Nat :=
  match Head.ofBytes? bytes with
  | none => bytes.length + 1
  | some h => h.size + min limit (h.bodyLength?.getD 0)

/- The octets of a message. -/
def encode
    (first : String)
    (fields : List (String × String))
    (body : Bytes) : Bytes :=
  let all :=
    fields ++
      [("Content-Length", toString body.length),
        ("Connection", "close")]
  Bytes.ofText first ++ lineEnd ++
    (all.flatMap fun (name, value) =>
      Bytes.ofText s!"{name}: {value}" ++ lineEnd) ++
    lineEnd ++ body

end Http

end Courier

------------------------------------------------------------
-- Messages of a Client
------------------------------------------------------------

namespace Courier

namespace Web

/- What is asked for at a host with a port. -/
def Request.target
    (q : Request)
    (endpoint : String) : String :=
  s!"/{endpoint}?{Form.encode q.query}"

/- The octets of a request to an endpoint. -/
def Request.toBytes
    (q : Request)
    (host : String)
    (port : UInt16)
    (endpoint : String) : Bytes :=
  Http.encode s!"POST {q.target endpoint} HTTP/1.1"
    [("Host", TransportError.endpoint host port),
      ("User-Agent", userAgent),
      ("Accept", wantedType),
      ("Content-Type", requestType)]
    (Bytes.ofText q.body)

/- The response in some bytes, if its head is complete. -/
def Response.ofBytes?
    (bytes : Bytes) : Option Response :=
  match Http.Head.ofBytes? bytes with
  | some h =>
      match h.words with
      | _ :: code :: _ =>
          (Numeral.natural64? code).map fun status =>
            { status := status
              body := .ok (bodyOf h) }
      | _ => none
  | none => none
where
  bodyOf (h : Http.Head) : Bytes :=
    let rest := bytes.drop h.size
    match h.bodyLength? with
    | some length => rest.take length
    | none => rest

end Web

end Courier

------------------------------------------------------------
-- Messages of a Server
------------------------------------------------------------

namespace Courier

namespace Tunnel

/- The request in some bytes, if its head is complete. -/
def Request.ofBytes?
    (bytes : Bytes) : Option Request :=
  match Http.Head.ofBytes? bytes with
  | some h =>
      match h.words with
      | method :: target :: _ =>
          some
            { method := method
              target := target
              body := bytes.drop h.size }
      | _ => none
  | none => none

/- The words for a status. -/
def reason : Nat → String
  | 200 => "OK"
  | 400 => "Bad Request"
  | 403 => "Forbidden"
  | 404 => "Not Found"
  | 405 => "Method Not Allowed"
  | 413 => "Payload Too Large"
  | _ => "Unknown"

/- The octets of a response. -/
def Response.toBytes
    (p : Response) : Bytes :=
  let type :=
    if p.answer.isSome then [("Content-Type", contentType)]
    else []
  Http.encode s!"HTTP/1.1 {p.status} {reason p.status}" type
    (Bytes.ofText p.body)

end Tunnel

end Courier
