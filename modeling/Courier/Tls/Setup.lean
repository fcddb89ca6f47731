import Courier.File.View
import Courier.Settings.Config
import Courier.Settings.Error
import Courier.Tls.Certificate
import Courier.Tls.PrivateKey

/-
  What the two ends of an encrypted connection start with.

  A server shows its certificates and has the key of the
  first one.  A client trusts the certificates of a file.
  The versions are checked before any file is read.

  Key definitions include:
    * `Tls.Version`
    * `Tls.versions`
    * `Tls.Trust`
    * `Tls.clientSetup`
    * `Tls.Identity`
    * `Tls.serverSetup`
-/

------------------------------------------------------------
-- Versions
------------------------------------------------------------

namespace Courier

namespace Tls

/- A version of the encryption protocol. -/
inductive Version where
| v12 : Version
| v13 : Version
deriving DecidableEq, Repr

/- The version with a name. -/
def Version.ofName
    (name : String) : Except TlsError Version :=
  match name with
  | "TLSv1.2" => .ok .v12
  | "TLSv1.3" => .ok .v13
  | _ => .error (.unsupportedProtocol name)

/- The versions with names, in the order of the names. -/
def versionsOf :
    List String → Except TlsError (List Version)
  | [] => .ok []
  | name :: rest => do
      let v ← Version.ofName name
      let vs ← versionsOf rest
      return v :: vs

/- The versions to use; if none is named, all of them. -/
def versions
    (names : List String) : Except TlsError (List Version) :=
  if names.isEmpty then .ok [.v13, .v12]
  else versionsOf names

end Tls

end Courier

------------------------------------------------------------
-- Files
------------------------------------------------------------

namespace Courier

namespace Tls

/- The content of a file that is needed. -/
def readMaterial
    (files : FileView)
    (material : Material)
    (path : Option String) : Except TlsError Bytes :=
  match path with
  | none => .error (.noPath material)
  | some p =>
      match files p with
      | .ok bytes => .ok bytes
      | .error e => .error (.unreadable material p e)

/- The certificates in a text, at least one. -/
def certificates
    (text : Bytes) : Except TlsError (List Bytes) :=
  match Pem.sections text with
  | (_, some fault) => .error (.badCertificates fault.message)
  | (found, none) =>
      let all := found.filterMap fun s =>
        if s.label = .certificate then some s.content else none
      if all.isEmpty then .error .noCertificates else .ok all

/- The first private key in a text, with its label. -/
def privateKey
    (text : Bytes) : Except TlsError Pem.Section :=
  let isKey (s : Pem.Section) :=
    s.label == .key || s.label == .rsaKey || s.label == .ecKey
  match Pem.sections text with
  | (found, fault) =>
      match found.find? isKey, fault with
      | some s, _ => .ok s
      | none, some fault => .error (.badKey fault.message)
      | none, none => .error (.badKey "no items found")

end Tls

end Courier

------------------------------------------------------------
-- Clients
------------------------------------------------------------

namespace Courier

namespace Tls

/- What a client trusts, and the versions that it speaks. -/
structure Trust where
  anchors : List Certificate
  versions : List Version
deriving DecidableEq, Repr

/- The certificates of all given octets. -/
def anchors :
    List Bytes → Except TlsError (List Certificate)
  | [] => .ok []
  | bytes :: rest =>
      match Certificate.ofBytes? true bytes with
      | none => .error (.badAnchor "invalid certificate")
      | some c => do
          let cs ← anchors rest
          return c :: cs

/- The text with the certificates that a client trusts. -/
def anchorText
    (s : TlsSettings)
    (files : FileView) : Except TlsError Bytes :=
  readMaterial files .anchor s.caPath

/- What a client starts with. -/
def clientSetup
    (s : TlsSettings)
    (files : FileView) : Except TlsError Trust := do
  let vs ← versions s.protocols
  let text ← anchorText s files
  let found ← certificates text
  let cs ← anchors found
  return { anchors := cs, versions := vs }

/- What a client starts with if it is to encrypt at all. -/
def clientSetup?
    (s : TlsSettings)
    (files : FileView) : Except TlsError (Option Trust) :=
  if s.enabled then
    (clientSetup s files).map some
  else
    .ok none

end Tls

end Courier

------------------------------------------------------------
-- Servers
------------------------------------------------------------

namespace Courier

namespace Tls

/- What a server shows, and the versions that it speaks. -/
structure Identity where
  certificate : Certificate
  key : PrivateKey
  versions : List Version
deriving DecidableEq, Repr

/- The first certificate with its key. -/
def identity
    (vs : List Version)
    (chain : List Bytes)
    (key : Pem.Section) : Except TlsError Identity :=
  match chain.head?.bind (Certificate.ofBytes? false),
      PrivateKey.ofSection? key with
  | some c, some k =>
      if c.form = .third ∧ k.publicKey = c.publicKey then
        .ok { certificate := c, key := k, versions := vs }
      else
        .error (.badConfig .server "key mismatch")
  | none, some _ =>
      .error (.badConfig .server "invalid certificate")
  | _, none => .error (.badConfig .server "invalid key")

/- What a server starts with. -/
def serverSetup
    (s : TlsSettings)
    (files : FileView) : Except TlsError Identity := do
  let vs ← versions s.protocols
  let certText ← readMaterial files .certificate s.certPath
  let chain ← certificates certText
  let keyText ← readMaterial files .key s.keyPath
  let key ← privateKey keyText
  identity vs chain key

/- What a server starts with if it is to encrypt at all. -/
def serverSetup?
    (s : TlsSettings)
    (files : FileView) : Except TlsError (Option Identity) :=
  if s.enabled then
    (serverSetup s files).map some
  else
    .ok none

end Tls

end Courier
