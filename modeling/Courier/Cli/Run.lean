import Courier.Cli.Arguments
import Courier.Client.Communicator
import Courier.Client.Transfer
import Courier.Server.Startup
import Courier.Settings.Source

/-
  What the program does with its arguments.

  Settings come from a file, then from the environment, then
  from the arguments, and are checked after each of the last
  two.  Whatever a server refuses ends in a failure.

  Key definitions include:
    * `Cli.World`
    * `Cli.Failure`
    * `Cli.Report`
    * `Cli.Outcome`
    * `Cli.settings`
    * `Cli.run`
-/

------------------------------------------------------------
-- The World
------------------------------------------------------------

namespace Courier

namespace Cli

/- What the program finds around it. -/
structure World where
  site : Site
  localFiles : LocalFiles
  environment : List (String × String)
  network : Network
  destination : String → Destination
  nonce : Bytes

/- Why the program failed. -/
inductive Failure where
| config : ConfigError → Failure
| transport : TransportError → Failure
| records : Failure
| described : (text : String) → Failure
deriving DecidableEq, Repr

/- The text of a failure. -/
def Failure.message : Failure → String
  | .config e => e.message
  | .transport e => e.message
  | .records => "the log records cannot be read"
  | .described text => Quoted.quote text

/-
  What the program prints, what it notes beside that, and
  the place of a download.
-/
structure Report where
  lines : List String
  note : Option String
  destination : Option Destination
  failure : Option Failure

/- What the program ends with, or that it goes on serving. -/
inductive Outcome where
| done : Report → Outcome
| serving : Config → Backend → Outcome
| help : Outcome
| misuse : Outcome

/- The name and the version of the program. -/
def version : String := "cmdlink 0.3.0"

namespace Report

/- Some lines and nothing else. -/
def ofLines
    (lines : List String) : Report :=
  { lines := lines
    note := none
    destination := none
    failure := none }

/- Nothing but a failure. -/
def ofFailure
    (failure : Failure) : Report :=
  { ofLines [] with failure := some failure }

/- The text of an answer that is a failure. -/
def refusal
    (a : Answer) : Failure :=
  let name := (a.failure.map Courier.Failure.name).getD ""
  .described s!"{a.entity} ({name})"

/- The entity of an answer. -/
def ofAnswer
    (a : Answer) : Report :=
  if a.isSuccess then ofLines [a.entity]
  else ofFailure (refusal a)

/- The entity of an answer, or why there is no answer. -/
def ofResult :
    Except TransportError Answer → Report
  | .ok a => ofAnswer a
  | .error e => ofFailure (.transport e)

end Report

end Cli

end Courier

------------------------------------------------------------
-- Settings
------------------------------------------------------------

namespace Courier

namespace Cli

/- Let the arguments have the last word. -/
def Flags.apply
    (f : Flags)
    (c : Config) : Config :=
  { c with
    host := f.host.getD c.host
    adminPort := f.port.getD c.adminPort
    serverName := f.serverName.getD c.serverName }

/- The settings of the program. -/
def settings
    (w : World)
    (f : Flags) : Except ConfigError Config :=
  match Config.load w.site.files f.config w.environment with
  | .error e => .error e
  | .ok c =>
      let c := f.apply c
      match c.validate w.site.files with
      | .error e => .error e
      | .ok () => .ok c

end Cli

end Courier

------------------------------------------------------------
-- Actions
------------------------------------------------------------

namespace Courier

namespace Cli

/- Send a local file. -/
def upload
    (w : World)
    (s : ClientSettings)
    (file : String)
    (user domain : Option String) : Report :=
  match Upload.ofFile file (w.site.files file) user domain with
  | .error e =>
      .ofFailure (.described s!"Cannot read {file}: {e.message}")
  | .ok u =>
      .ofResult
        (Transfer.upload w.network w.localFiles s u).outcome

/- Fetch a stored file. -/
def download
    (w : World)
    (s : ClientSettings)
    (fileId dest : String)
    (domain : Option String) : Report :=
  let (call, d) :=
    Transfer.download w.network s fileId domain
      (w.destination dest)
  let noteOf (a : Answer) :=
    if a.isSuccess then
      some s!"{fileId} -> {dest} ({a.dataLength.toNat} bytes)"
    else
      none
  { Report.ofResult call.outcome with
    note := call.outcome.toOption.bind noteOf
    destination := some d }

/- The lines of the records in an answer. -/
def recordLines
    (a : Answer) : Option (List String) :=
  match a.object with
  | none => some []
  | some object =>
      (LogRecord.listOfJson? object).map fun records =>
        records.map LogRecord.render

/- The command that asks for the newest log records. -/
def logCommand
    (c : Config)
    (limit : Option Nat) : Command :=
  let verb :=
    match limit with
    | some n => s!"limit={n}"
    | none => "LOG"
  c.newCommand LogQuery.dispatcherId verb

/- Show the newest log records. -/
def showLog
    (w : World)
    (c : Config)
    (s : ClientSettings)
    (limit : Option Nat) : Report :=
  match Communicator.send (.ofNetwork w.network) s
      (logCommand c limit) with
  | .error e => .ofFailure (.transport e)
  | .ok a =>
      match recordLines a with
      | none => .ofFailure .records
      | some lines =>
          let ending := Report.ofAnswer a
          { ending with lines := lines ++ ending.lines }

/- Do what needs a client. -/
def runClient
    (w : World)
    (c : Config)
    (s : ClientSettings) : Action → Report
  | .stop => .ofResult (Communicator.stop wires s)
  | .health => .ofResult (Communicator.health wires s)
  | .upload file user domain => upload w s file user domain
  | .download fileId dest domain =>
      download w s fileId dest domain
  | .delete fileId domain =>
      .ofResult (Communicator.delete wires s ⟨fileId, domain⟩)
  | .log limit => showLog w c s limit
  | .serve | .encrypt _ => .ofLines []
where
  wires : Wires := .ofNetwork w.network

/- Do what the arguments say, with settings that are sound. -/
def runAction
    (w : World)
    (c : Config) : Action → Outcome
  | .serve =>
      let buffer := LogBuffer.ofCapacity c.logBufferCapacity.toNat
      match (Backend.start c buffer w.site).outcome with
      | .ok backend => .serving c backend
      | .error e => .done (.ofFailure (.config e))
  | .encrypt value =>
      match Secret.encrypt value c.secretKey w.nonce with
      | .ok sealedText => .done (.ofLines [sealedText])
      | .error e =>
          .done (.ofFailure (.config (.invalid (.secret e))))
  | action =>
      match ClientSettings.ofConfig c w.site.files with
      | .ok s => .done (runClient w c s action)
      | .error e => .done (.ofFailure (.config e))

/- Do what the arguments say. -/
def run
    (w : World)
    (arguments : List String) : Outcome :=
  match Invocation.ofArguments arguments with
  | .version => .done (.ofLines [version])
  | .help => .help
  | .misuse => .misuse
  | .run flags action =>
      match settings w flags with
      | .ok c => runAction w c action
      | .error e => .done (.ofFailure (.config e))

end Cli

end Courier
