import Montage.Cli.Arguments

/-!
# Help

The pages that describe the tool and its commands.
-/

namespace Montage.Cli

/-- The line that names the tool and its version. -/
def versionText : String := "vcomp 0.1.0\n"

/-- A page: what a command does, how it is called, and tables under headings. -/
def page (purpose usage : String) (tables : List (String × List String)) : String :=
  purpose ++ "\n\nUsage: " ++ usage ++ "\n" ++
    String.join (tables.map fun (heading, rows) =>
      "\n" ++ heading ++ ":\n" ++ String.join (rows.map fun row => "  " ++ row ++ "\n"))

/-- What `plan` does. -/
def planPurpose : String :=
  "Print the filter graph and FFmpeg arguments without running anything"

/-- What `compose` does. -/
def composePurpose : String := "Run a composition and write the result"

/-- What `schema` does. -/
def schemaPurpose : String := "Print the manifest JSON schema"

/-- What `check` does. -/
def checkPurpose : String := "Check that ffmpeg and ffprobe can be found"

/-- What `help` does. -/
def helpPurpose : String := "Print this message or the help of the given subcommand(s)"

/-- The page of a topic. The page of `compose` shows the variable that its
timeout is taken from. -/
def helpText (environment : Environment) : Topic → String
  | .overview => page "Compose videos from a JSON manifest with FFmpeg" "vcomp <COMMAND>" [
      ("Commands", [
        "plan     " ++ planPurpose,
        "compose  " ++ composePurpose,
        "schema   " ++ schemaPurpose,
        "check    " ++ checkPurpose,
        "help     " ++ helpPurpose]),
      ("Options", [
        "-h, --help     Print help",
        "-V, --version  Print version"])]
  | .plan => page planPurpose "vcomp plan [OPTIONS] <MANIFEST>" [
      ("Arguments", ["<MANIFEST>  Composition manifest"]),
      ("Options", [
        "    --probe  Fill undeclared asset metadata with ffprobe",
        "-h, --help   Print help"])]
  | .compose => page composePurpose "vcomp compose [OPTIONS] --output <OUTPUT> <MANIFEST>" [
      ("Arguments", ["<MANIFEST>  Composition manifest"]),
      ("Options", [
        "-o, --output <OUTPUT>    Output file",
        "    --timeout <TIMEOUT>  Engine timeout in seconds [env: VCOMP_TIMEOUT_SECS=" ++
          (environment.text? "VCOMP_TIMEOUT_SECS").getD "" ++ "]",
        "    --no-probe           Skip probing inputs for undeclared metadata",
        "-h, --help               Print help"])]
  | .schema => page schemaPurpose "vcomp schema" [("Options", ["-h, --help  Print help"])]
  | .check => page checkPurpose "vcomp check" [("Options", ["-h, --help  Print help"])]
  | .help => page helpPurpose "vcomp help [COMMAND]..." [
      ("Arguments", ["[COMMAND]...  Print help for the subcommand(s)"])]

end Montage.Cli
