import Courier.Text.Numeral
import Courier.Text.Split

/-
  The arguments of the program.

  A verb says what to do.  Options that concern the settings
  may stand before or after the verb, and count from behind
  it if they stand at both places; the other options belong
  to some of the verbs.  No option may come twice at one
  place.

  Key definitions include:
    * `Cli.Verb`
    * `Cli.Key`
    * `Cli.Flags`
    * `Cli.Action`
    * `Cli.Invocation`
    * `Cli.Invocation.ofArguments`
-/

------------------------------------------------------------
-- Verbs and Options
------------------------------------------------------------

namespace Courier

namespace Cli

/- What the program can do. -/
inductive Verb where
| serve : Verb
| encrypt : Verb
| stop : Verb
| health : Verb
| upload : Verb
| download : Verb
| delete : Verb
| log : Verb
deriving DecidableEq, Repr

/- The word for a verb. -/
def Verb.word : Verb → String
  | .serve => "serve"
  | .encrypt => "encrypt"
  | .stop => "stop"
  | .health => "health"
  | .upload => "upload"
  | .download => "download"
  | .delete => "delete"
  | .log => "log"

/- All verbs. -/
def Verb.all : List Verb :=
  [.serve, .encrypt, .stop, .health, .upload, .download,
    .delete, .log]

/- The verb for a word. -/
def Verb.ofWord?
    (word : String) : Option Verb :=
  all.find? (·.word == word)

/- The number of values that a verb needs. -/
def Verb.arity : Verb → Nat
  | .download => 2
  | .encrypt | .upload | .delete => 1
  | .serve | .stop | .health | .log => 0

/- The values of a verb that are paths. -/
def Verb.pathIndex? : Verb → Option Nat
  | .upload => some 0
  | .download => some 1
  | _ => none

/- What an option is about. -/
inductive Key where
| config : Key
| host : Key
| port : Key
| serverName : Key
| user : Key
| domain : Key
| limit : Key
deriving DecidableEq, Repr

/- The word for an option. -/
def Key.word : Key → String
  | .config => "config"
  | .host => "host"
  | .port => "port"
  | .serverName => "server-name"
  | .user => "user"
  | .domain => "domain"
  | .limit => "limit"

/- The letter for an option. -/
def Key.letter? : Key → Option Char
  | .config => some 'c'
  | .port => some 'p'
  | .user => some 'u'
  | .domain => some 'd'
  | .limit => some 'n'
  | .host | .serverName => none

/- The options at a place: before or after a verb. -/
def keysAt : Option Verb → List Key
  | some .upload => common ++ [.user, .domain]
  | some .download => common ++ [.domain]
  | some .delete => common ++ [.domain]
  | some .log => common ++ [.limit]
  | _ => common
where
  common : List Key := [.config, .host, .port, .serverName]

/- The port that a text names. -/
def portOf?
    (text : String) : Option UInt16 :=
  match Numeral.integer? 64 text with
  | some n =>
      if 0 ≤ n ∧ n < 65536 then some (UInt16.ofNat n.toNat)
      else none
  | none => none

/- An option takes a value. -/
def Key.accepts
    (value : String) : Key → Bool
  | .config => !value.isEmpty
  | .port => (portOf? value).isSome
  | .limit => (Numeral.natural64? value).isSome
  | .host | .serverName | .user | .domain => true

end Cli

end Courier

------------------------------------------------------------
-- Invocations
------------------------------------------------------------

namespace Courier

namespace Cli

/- What the options say about the settings. -/
structure Flags where
  config : Option String
  host : Option String
  port : Option UInt16
  serverName : Option String
deriving DecidableEq, Repr

/- What is to be done. -/
inductive Action where
| serve : Action
| encrypt : (value : String) → Action
| stop : Action
| health : Action
| upload :
    (file : String) → (user domain : Option String) → Action
| download :
    (fileId dest : String) → (domain : Option String) →
    Action
| delete :
    (fileId : String) → (domain : Option String) → Action
| log : (limit : Option Nat) → Action
deriving DecidableEq, Repr

/- What some arguments ask for, unless they are misused. -/
inductive Invocation where
| run : Flags → Action → Invocation
| version : Invocation
| help : Invocation
| misuse : Invocation
deriving DecidableEq, Repr

end Cli

end Courier

------------------------------------------------------------
-- Reading
------------------------------------------------------------

namespace Courier

namespace Cli

/-
  What was read so far: the options before the verb, those
  after it, and the values, the last ones first.
-/
structure Reading where
  verb : Option Verb
  outer : List (Key × String)
  inner : List (Key × String)
  values : List String
deriving DecidableEq, Repr

namespace Reading

/- Nothing was read. -/
def start : Reading :=
  { verb := none
    outer := []
    inner := []
    values := [] }

/- The options at the place that is being read. -/
def here
    (r : Reading) : List (Key × String) :=
  if r.verb.isSome then r.inner else r.outer

/- Take an option with its value. -/
def take?
    (r : Reading)
    (key : Key)
    (value : String) : Option Reading :=
  if r.here.any (·.1 == key) || !key.accepts value then
    none
  else if r.verb.isSome then
    some { r with inner := (key, value) :: r.inner }
  else
    some { r with outer := (key, value) :: r.outer }

/- Take a word that is no option. -/
def takeWord?
    (r : Reading)
    (word : String) : Option Reading :=
  match r.verb with
  | none =>
      (Verb.ofWord? word).map fun verb =>
        { r with verb := some verb }
  | some verb =>
      if verb.arity ≤ r.values.length ||
          verb.pathIndex? == some r.values.length &&
            word.isEmpty then
        none
      else
        some { r with values := word :: r.values }

/- The value of an option, preferably from behind the verb. -/
def value?
    (r : Reading)
    (key : Key) : Option String :=
  (r.inner ++ r.outer).lookup key

/- What the options say about the settings. -/
def flags
    (r : Reading) : Flags :=
  { config := r.value? .config
    host := r.value? .host
    port := (r.value? .port).bind portOf?
    serverName := r.value? .serverName }

/- What the verb and its values say. -/
def action?
    (r : Reading) : Option Action :=
  let user := r.value? .user
  let domain := r.value? .domain
  match r.verb, r.values.reverse with
  | some .serve, [] => some .serve
  | some .encrypt, [value] => some (.encrypt value)
  | some .stop, [] => some .stop
  | some .health, [] => some .health
  | some .upload, [file] => some (.upload file user domain)
  | some .download, [fileId, dest] =>
      some (.download fileId dest domain)
  | some .delete, [fileId] => some (.delete fileId domain)
  | some .log, [] =>
      some
        (.log
          ((r.value? .limit).bind Numeral.natural64?))
  | _, _ => none

/- What was asked for at the end of the arguments. -/
def finish
    (r : Reading) : Invocation :=
  match r.action? with
  | some action => .run r.flags action
  | none => .misuse

end Reading

end Cli

end Courier

------------------------------------------------------------
-- Arguments
------------------------------------------------------------

namespace Courier

namespace Cli

/- What the form of an argument says that it is. -/
inductive Form where
| word : Form
| rest : Form
| help : Form
| version : Form
| option : Key → (value : Option String) → Form
| unknown : Form
deriving DecidableEq, Repr

/- An option with a word, where a value may follow. -/
def longForm
    (verb : Option Verb)
    (chars : List Char) : Form :=
  let (name, value) :=
    match Split.cut? '=' chars with
    | some (name, value) => (name, some (String.ofList value))
    | none => (chars, none)
  let name := String.ofList name
  match (keysAt verb).find? (·.word == name) with
  | some key => .option key value
  | none =>
      if value.isSome then .unknown
      else if name = "help" then .help
      else if name = "version" ∧ verb = none then .version
      else .unknown

/- An option with a letter, where a value may follow. -/
def shortForm
    (verb : Option Verb)
    (letter : Char)
    (rest : List Char) : Form :=
  match (keysAt verb).find? (·.letter? == some letter) with
  | some key =>
      .option key
        (match rest with
        | [] => none
        | '=' :: value => some (String.ofList value)
        | value => some (String.ofList value))
  | none =>
      if letter = 'h' then .help
      else if letter = 'V' ∧ verb = none then .version
      else .unknown

/- The form of an argument after or before a verb. -/
def formOf
    (verb : Option Verb)
    (argument : String) : Form :=
  match argument.toList with
  | ['-', '-'] => .rest
  | '-' :: '-' :: chars => longForm verb chars
  | '-' :: letter :: rest => shortForm verb letter rest
  | _ => .word

/- Take words that can be nothing else. -/
def readWords
    (r : Reading) : List String → Invocation
  | [] => r.finish
  | word :: rest =>
      if r.verb.isNone then .misuse
      else
        match r.takeWord? word with
        | some r => readWords r rest
        | none => .misuse

/- The words after the one that asks for help. -/
def helpOn : List String → Invocation
  | [] => .help
  | [word] =>
      if (Verb.ofWord? word).isSome || word == "help" then .help
      else .misuse
  | _ => .misuse

/- Read arguments from left to right. -/
def readFrom
    (r : Reading) : List String → Invocation
  | [] => r.finish
  | argument :: rest =>
      match formOf r.verb argument with
      | .rest => readWords r rest
      | .help => .help
      | .version => .version
      | .unknown => .misuse
      | .word =>
          if r.verb = none ∧ argument = "help" then
            helpOn rest
          else
            match r.takeWord? argument with
            | some r => readFrom r rest
            | none => .misuse
      | .option key (some value) =>
          match r.take? key value with
          | some r => readFrom r rest
          | none => .misuse
      | .option key none =>
          match rest with
          | [] => .misuse
          | value :: rest =>
              if formOf r.verb value ≠ .word then .misuse
              else
                match r.take? key value with
                | some r => readFrom r rest
                | none => .misuse

/- What some arguments ask for. -/
def Invocation.ofArguments
    (arguments : List String) : Invocation :=
  readFrom .start arguments

end Cli

end Courier
