import Courier.IoError
import Courier.Text.Quoted

/-
  Why certificates and keys could not be put to use.

  Key definitions include:
    * `Tls.Material`
    * `TlsError`
    * `TlsError.message`
-/

------------------------------------------------------------
-- Material
------------------------------------------------------------

namespace Courier

namespace Tls

/- The files that an encrypted connection needs. -/
inductive Material where
| anchor : Material
| certificate : Material
| key : Material
deriving DecidableEq, Repr

/- What a file is called in messages. -/
def Material.description : Material → String
  | .anchor => "CA certificate"
  | .certificate => "certificate"
  | .key => "private key"

/- The two ends of a connection. -/
inductive Side where
| client : Side
| server : Side
deriving DecidableEq, Repr

/- The name of an end in messages. -/
def Side.name : Side → String
  | .client => "client"
  | .server => "server"

end Tls

end Courier

------------------------------------------------------------
-- Errors
------------------------------------------------------------

namespace Courier

/- Why certificates and keys could not be put to use. -/
inductive TlsError where
| unsupportedProtocol : (name : String) → TlsError
| noPath : Tls.Material → TlsError
| unreadable :
    Tls.Material → (path : String) → IoError → TlsError
| badCertificates : (detail : String) → TlsError
| noCertificates : TlsError
| badKey : (detail : String) → TlsError
| badAnchor : (detail : String) → TlsError
| badConfig : Tls.Side → (detail : String) → TlsError
| badServerName : (host detail : String) → TlsError
| handshake : (peer detail : String) → TlsError
| described : (text : String) → TlsError
deriving DecidableEq, Repr

namespace TlsError

/- The text of an error. -/
def message : TlsError → String
  | .unsupportedProtocol name =>
      s!"unsupported protocol {Quoted.quote name}"
  | .noPath material =>
      s!"{material.description} path not configured"
  | .unreadable material path e =>
      s!"cannot read {material.description} {path}: " ++
        e.message
  | .badCertificates detail =>
      s!"failed to parse certificates: {detail}"
  | .noCertificates => "no certificates found"
  | .badKey detail => s!"failed to parse private key: {detail}"
  | .badAnchor detail =>
      s!"failed to add CA certificate: {detail}"
  | .badConfig side detail =>
      s!"{side.name} config error: {detail}"
  | .badServerName host detail =>
      s!"invalid server name {host}: {detail}"
  | .handshake peer detail =>
      s!"handshake with {peer}: {detail}"
  | .described text => text

end TlsError

end Courier
