import Courier.Cli.Run
import Courier.Client.Contact

/-
  What the program will look at: files, variables, and the
  server that it turns to.

  Key definitions include:
    * `Cli.Invocation.paths`
    * `Cli.settingPaths`
    * `Cli.errand?`
    * `Cli.contact?`
-/

------------------------------------------------------------
-- Files
------------------------------------------------------------

namespace Courier

namespace Cli

/- The files that the arguments name. -/
def Invocation.paths : Invocation → List String
  | .run flags (.upload file _ _) => file :: flags.config.toList
  | .run flags _ => flags.config.toList
  | .version | .help | .misuse => []

/- The files that the settings name. -/
def settingPaths
    (w : World) : Invocation → List String
  | .run flags _ =>
      match Config.load w.site.files flags.config
          w.environment with
      | .ok c =>
          [c.tls.certPath, c.tls.keyPath, c.tls.caPath].flatMap
            Option.toList
      | .error _ => []
  | .version | .help | .misuse => []

end Cli

end Courier

------------------------------------------------------------
-- Contacts
------------------------------------------------------------

namespace Courier

namespace Cli

/- The call that an action makes. -/
def errand?
    (w : World)
    (c : Config) : Action → Option Errand
  | .stop => some (.command .stop)
  | .health => some (.command .health)
  | .upload file user domain =>
      (Upload.ofFile file (w.site.files file) user
        domain).toOption.map Errand.upload
  | .download fileId _ domain => some (.download fileId domain)
  | .delete fileId domain =>
      some (.command (Delete.toCommand ⟨fileId, domain⟩))
  | .log limit => some (.command (logCommand c limit))
  | .serve | .encrypt _ => none

/- The contact that the arguments lead to. -/
def contact?
    (w : World) : Invocation → Option Contact
  | .run flags action =>
      match settings w flags with
      | .error _ => none
      | .ok c =>
          match ClientSettings.ofConfig c w.site.files with
          | .error _ => none
          | .ok s =>
              (errand? w c action).bind
                (Errand.contact? w.localFiles s)
  | .version | .help | .misuse => none

end Cli

end Courier
