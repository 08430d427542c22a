import Montage.Cli.EnvironmentFile
import Montage.Cli.Help
import Montage.Cli.Loading
import Montage.Cli.LogFilter
import Montage.Engine.Request
import Montage.Manifest.Schema

/-!
# Running the tool

A command either succeeds and has something to print, or fails with a reason.
Only `compose` changes the disk: it writes the output file as its last step
before it prints. A run breaks down if it cannot print.
-/

namespace Montage.Cli

/-! ## Printing -/

/-- Where a run prints. A print is taken whole or fails. -/
structure Printer where
  /-- how many prints are taken before one fails, if one ever does -/
  capacity : Option Nat := none
deriving DecidableEq

namespace Printer

/-- Those of some prints that are taken. -/
def taken (printer : Printer) (prints : List String) : List String :=
  match printer.capacity with
  | none => prints
  | some capacity => prints.take capacity

/-- Whether all of some prints are taken. -/
def takesAll (printer : Printer) (prints : List String) : Bool :=
  printer.taken prints == prints

end Printer

/-! ## Commands -/

/-- What `plan` prints about a program. -/
def planPrints (program : Program) : List String := [
  "# path: " ++ (if program.singlePass then "single-pass overlay" else "full compile"),
  "# inputs: " ++ toString program.inputs.length,
  if program.graphText.isEmpty then "# no filter graph" else program.prettyGraph,
  "# output args: " ++ " ".intercalate program.args]

/-- Show the program of a manifest. -/
def plan (host : Host) (config : EngineConfig) (path : String) (probe : Bool)
    (session : Session) : Except Failure (List String) × Session :=
  match loadManifest host session.disk path with
  | .error failure => (.error failure, session)
  | .ok manifest =>
    let probe := if probe then some config.ffprobe else none
    match loadComposition host probe manifest session with
    | (.error failure, session) => (.error failure, session)
    | (.ok composition, session) =>
      match composition.plan with
      | .error error => (.error (.ofError error), session)
      | .ok program => (.ok (planPrints program), session)

/-- Write the output of a request, and say what is known of it. -/
def deliver (host : Host) (output : String) (asset : Asset) (session : Session) :
    Except Failure (List String) × Session :=
  match session.disk.write host.directory output asset.bytes with
  | .error fault => (.error (.ofFault ("Failed to write " ++ output) fault), session)
  | .ok disk => (.ok [asset.metadata.toJson.prettyText], { session with disk })

/-- Carry out the program of a manifest. -/
def compose (host : Host) (config : EngineConfig) (request : Request)
    (path output : String) (probe : Bool) (session : Session) :
    Except Failure (List String) × Session :=
  match loadManifest host session.disk path with
  | .error failure => (.error failure, session)
  | .ok manifest =>
    let probe := if probe then some config.ffprobe else none
    match loadComposition host probe manifest session with
    | (.error failure, session) => (.error failure, session)
    | (.ok composition, session) =>
      match request.compose host config composition session with
      | (.error error, session) => (.error (.ofError error), session)
      | (.ok asset, session) => deliver host output asset session

/-- Show where the engine's programs are. -/
def check (host : Host) (config : EngineConfig) (disk : Disk) : Except Failure (List String) :=
  let found := do
    let ffmpeg ← findEngine host disk config.ffmpeg
    let ffprobe ← findEngine host disk config.ffprobe
    return ["ffmpeg: " ++ ffmpeg, "ffprobe: " ++ ffprobe]
  found.mapError Failure.ofError

/-- Carry out a command. -/
def Command.run (command : Command) (host : Host) (config : EngineConfig) (request : Request)
    (session : Session) : Except Failure (List String) × Session :=
  match command with
  | .plan manifest probe => Cli.plan host config manifest probe session
  | .compose manifest output timeout probe =>
    let config := { config with timeout := timeout.getD config.timeout }
    Cli.compose host config request manifest output probe session
  | .schema => (.ok [Schema.manifest.prettyText], session)
  | .check => (Cli.check host config session.disk, session)

/-! ## The whole tool -/

/-- What can be seen of a run of the tool. -/
structure Outcome where
  exitCode : Nat
  stdout : String
  /-- the errors that the tool itself logged -/
  errors : List String
  session : Session

/-- The name under which the tool logs. -/
def logTarget : String := "vcomp"

/-- A run without a command. -/
def Outcome.brief (exitCode : Nat) (stdout : String) (disk : Disk) : Outcome :=
  ⟨exitCode, stdout, [], { disk }⟩

/-- The end of a command. Its failure is logged if errors are; a print that fails
breaks the run down, whatever the command has done by then. -/
def conclude (printer : Printer) (logged : Bool) :
    Except Failure (List String) × Session → Outcome
  | (.ok prints, session) =>
    ⟨if printer.takesAll prints then 0 else 101,
      String.join ((printer.taken prints).map (· ++ "\n")), [], session⟩
  | (.error failure, session) => ⟨1, "", if logged then [failure.text] else [], session⟩

/-- A run that breaks down before it has read its arguments. -/
def Outcome.breakdown (disk : Disk) : Outcome := .brief 101 "" disk

/-- Carry out what some arguments ask for. Nobody is told that the version or the
help could not be printed. -/
def obey (programs : List (Place × (List String → Behaviour))) (directory : Place)
    (environment : Environment) (printer : Printer) (logged : Bool) (request : Request)
    (args : List String) (disk : Disk) : Outcome :=
  match Invocation.ofArgs environment args with
  | .misuse => .brief 2 "" disk
  | .version => .brief 0 (String.join (printer.taken [versionText])) disk
  | .help topic => .brief 0 (String.join (printer.taken [helpText environment topic])) disk
  | .command command =>
    let host : Host :=
      ⟨directory, environment.text? "PATH", environment.homeDirectory?, programs⟩
    conclude printer logged
      (command.run host (EngineConfig.ofEnvironment environment) request { disk })

/-- Run the tool with some arguments in a directory. The environment file adds
to the environment before anything else is read from it, and the log is set up
before the arguments are looked at. -/
def run (programs : List (Place × (List String → Behaviour))) (directory : Place)
    (environment : Environment) (request : Request) (args : List String) (disk : Disk)
    (printer : Printer) : Outcome :=
  match EnvironmentFile.extend environment disk directory with
  | none => .breakdown disk
  | some environment =>
    match errorsShown? logTarget (environment.text? "RUST_LOG") with
    | none => .breakdown disk
    | some logged => obey programs directory environment printer logged request args disk

end Montage.Cli
