import Courier.File.Name
import Courier.Json5.Document
import Courier.Settings.Decode
import Courier.Settings.Validation
import Courier.Toml.Table

/-
  Where settings come from: a file, and the environment,
  which has the last word.

  Key definitions include:
    * `FileFormat`
    * `Config.ofFile`
    * `Config.environmentKeys`
    * `Config.override`
    * `Config.overrideAll`
    * `Config.load`
-/

------------------------------------------------------------
-- Files
------------------------------------------------------------

namespace Courier

namespace Config

/-
  What follows the last dot of the last component of a
  path, unless the component starts with that dot.
-/
def extension?
    (path : String) : Option String :=
  match FileName.ofPath? path with
  | none => none
  | some name =>
      match (Split.pieces '.' name.toList).reverse with
      | last :: before :: rest =>
          if rest.isEmpty && before.isEmpty then none
          else some (String.ofList last)
      | _ => none

end Config

/- What a configuration file is written in. -/
inductive FileFormat where
| json5 : FileFormat
| toml : FileFormat
deriving DecidableEq, Repr

namespace FileFormat

/- The format that the name of a file asks for. -/
def ofPath
    (path : String) : FileFormat :=
  match Config.extension? path with
  | some "json" | some "json5" => .json5
  | _ => .toml

/- The value that a text spells. -/
def read? : FileFormat → List Char → Option Value
  | .json5 => Json5.read?
  | .toml => Toml.read?

/- What may be said beside a setting. -/
def rigor : FileFormat → Rigor
  | .json5 => .loose
  | .toml => .lenient

/- The configuration that a text spells. -/
def config?
    (format : FileFormat)
    (chars : List Char) : Option Config :=
  (format.read? chars).bind
    (Config.ofValue? format.rigor)

end FileFormat

namespace Config

/- A file that is no text. -/
def notText : IoError :=
  { kind := .invalidData
    message := "stream did not contain valid UTF-8" }

/- The configuration of a file. -/
def ofFile
    (files : FileView)
    (path : String) : Except ConfigError Config :=
  match files path with
  | .error e => .error (.unreadable path e)
  | .ok bytes =>
      match Utf8.decode bytes with
      | .error _ => .error (.unreadable path notText)
      | .ok chars =>
          match (FileFormat.ofPath path).config? chars with
          | some c => .ok c
          | none => .error (.unparsed path "invalid settings")

end Config

end Courier

------------------------------------------------------------
-- The Environment
------------------------------------------------------------

namespace Courier

namespace Config

/- What the names of variables start with. -/
def variableMark : List Char := "CMDLINK_".toList

/- The settings that variables can change. -/
def variableNames : List String :=
  ["SERVER_NAME", "HOST", "ADMIN_PORT", "WEB_PORT", "MODE",
    "WEB_OVERRIDE", "CLIENT_TIMEOUT", "TLS", "HTTPS",
    "API_KEY", "SECRET_KEY", "STORAGE_LOCATION"]

/- The variables that can change settings. -/
def environmentKeys : List String :=
  variableNames.map fun name =>
    String.ofList (variableMark ++ name.toList)

/- The setting that a variable is about. -/
def variableName?
    (key : String) : Option String :=
  if variableMark.isPrefixOf key.toList then
    some
      (String.ofList
        (key.toList.drop variableMark.length))
  else none

/- A number below a bound, with blanks around it. -/
def numberOf?
    (bound : Nat)
    (text : String) : Option Nat :=
  Numeral.natural? bound (Blank.trimText text)

/- A flag, with blanks around it. -/
def flagOf?
    (text : String) : Option Bool :=
  match Blank.trimText text with
  | "true" => some true
  | "false" => some false
  | _ => none

/- A mode, in letters of either size. -/
def modeOf?
    (text : String) : Option Mode :=
  match String.ofList (text.toList.map Char.toLower) with
  | "web" => some .web
  | "sockets" => some .sockets
  | _ => none

/- Use a value that could be read. -/
def taking
    {α : Type}
    (key value : String)
    (read : Option α)
    (use : α → Config) : Except ConfigError Config :=
  match read with
  | some a => .ok (use a)
  | none => .error (.invalid (.unparsed key value))

/- Let a variable change its setting, if it has one. -/
def override
    (c : Config)
    (key value : String) : Except ConfigError Config :=
  let port (use : UInt16 → Config) :=
    taking key value
      ((numberOf? 65536 value).map UInt16.ofNat) use
  let flag := taking key value (flagOf? value)
  match variableName? key with
  | some "SERVER_NAME" => .ok { c with serverName := value }
  | some "HOST" => .ok { c with host := value }
  | some "ADMIN_PORT" => port ({ c with adminPort := · })
  | some "WEB_PORT" => port ({ c with webPort := · })
  | some "MODE" =>
      match modeOf? value with
      | some mode => .ok { c with mode := mode }
      | none =>
          .error (.invalid (.unknownMode key value))
  | some "WEB_OVERRIDE" => flag ({ c with webOverride := · })
  | some "CLIENT_TIMEOUT" =>
      taking key value (numberOf? UInt64.size value)
        fun seconds =>
          { c with
            clientTimeoutSecs := some (UInt64.ofNat seconds) }
  | some "TLS" =>
      flag fun on => { c with tls := { c.tls with enabled := on } }
  | some "HTTPS" => flag ({ c with https := · })
  | some "API_KEY" =>
      .ok { c with tunnel := { c.tunnel with apiKey := value } }
  | some "SECRET_KEY" => .ok { c with secretKey := value }
  | some "STORAGE_LOCATION" =>
      .ok
        { c with
          fileServer := { c.fileServer with location := value } }
  | _ => .ok c

/-
  Let variables change their settings, one after the other.
  The first one that cannot be used ends this; what was
  changed before it stays.
-/
def overrideAll
    (c : Config) :
    List (String × String) →
    Except ConfigError Unit × Config
  | [] => (.ok (), c)
  | (key, value) :: rest =>
      match c.override key value with
      | .ok c' => overrideAll c' rest
      | .error e => (.error e, c)

end Config

end Courier

------------------------------------------------------------
-- Loading
------------------------------------------------------------

namespace Courier

namespace Config

/-
  The defaults, or what a file says, as the environment
  changes it.
-/
def load
    (files : FileView)
    (path : Option String)
    (environment : List (String × String)) :
    Except ConfigError Config :=
  let base :=
    match path with
    | some p => ofFile files p
    | none => .ok default
  match base with
  | .error e => .error e
  | .ok c =>
      match c.overrideAll environment with
      | (.error e, _) => .error e
      | (.ok (), c') =>
          match c'.validate files with
          | .ok () => .ok c'
          | .error e => .error e

end Config

end Courier
