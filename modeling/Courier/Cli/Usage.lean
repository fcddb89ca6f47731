import Courier.Cli.Arguments

/-
  What the program says about its own use.

  Key definitions include:
    * `Cli.Verb.about`
    * `Cli.usage`
-/

------------------------------------------------------------
-- Usage
------------------------------------------------------------

namespace Courier

namespace Cli

/- What a verb does. -/
def Verb.about : Verb → String
  | .serve => "Run the backend server"
  | .encrypt =>
      "Encrypt a config value (e.g. the tunnel API key) " ++
        "with the configured secretKey"
  | .stop => "Ask the server to shut down"
  | .health => "Check that the server is alive"
  | .upload => "Upload a file to the server's file storage"
  | .download => "Download a stored file"
  | .delete => "Delete a stored file"
  | .log => "Show the server's recent log records"

/- A text with blanks behind it up to the given width. -/
def column
    (width : Nat)
    (text : String) : String :=
  text ++
    String.ofList (List.replicate (width - text.length) ' ')

/- The lines about the verbs. -/
def verbLines : List String :=
  Verb.all.map fun v => s!"  {column 8 v.word}  {v.about}"

/- The lines about the options of the settings. -/
def optionLines : List String :=
  ["  -c, --config <FILE>       " ++
      "Config file (.toml, .json or .json5)",
    "      --host <HOST>         Server host",
    "  -p, --port <PORT>         Admin socket port",
    "      --server-name <NAME>  " ++
      "Server name stamped on commands",
    "  -h, --help                Print help",
    "  -V, --version             Print version"]

/- How the program is used. -/
def usage : String :=
  "\n".intercalate
    (["Command and file-transfer link between a web tier " ++
        "and a backend server",
      "",
      "Usage: cmdlink [OPTIONS] <COMMAND>",
      "",
      "Commands:"] ++ verbLines ++
      ["", "Options:"] ++ optionLines)

end Cli

end Courier
