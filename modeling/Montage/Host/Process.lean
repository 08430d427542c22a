import Montage.Host.Disk

/-!
# Processes

A host knows its working directory, the directories in which programs are
looked up, and what each of its programs does. A process writes to its two
outputs, may write a file that its last argument names, takes some time, and
ends with an exit code or by a signal. A process that it has started itself can
keep its outputs open when it is gone.
-/

namespace Montage

/-- A signal that ends a process. -/
inductive Signal where
  | kill
  | segmentationFault
  | terminate
deriving DecidableEq

/-- The number and the name of a signal. -/
def Signal.text : Signal → String
  | kill => "9 (SIGKILL)"
  | segmentationFault => "11 (SIGSEGV)"
  | terminate => "15 (SIGTERM)"

/-- How a process ends. -/
inductive Ending where
  | exited (code : UInt8)
  | signalled (signal : Signal)
deriving DecidableEq

namespace Ending

/-- Whether a process did what it was started for. -/
def isSuccess : Ending → Bool
  | exited code => code == 0
  | signalled _ => false

/-- The exit code, unless a signal ended the process. -/
def exitCode : Ending → Option Int
  | exited code => some code.toNat
  | signalled _ => none

/-- How an ending is worded. -/
def text : Ending → String
  | exited code => "exit status: " ++ toString code.toNat
  | signalled signal => "signal: " ++ signal.text

end Ending

/-- What a process does. -/
structure Behaviour where
  stdout : Bytes := []
  stderr : Bytes := []
  /-- what it writes to the file that its last argument names -/
  output : Option Bytes := none
  /-- how long it runs, in milliseconds -/
  duration : Nat := 0
  ending : Ending := .exited 0
  /-- for how long its output stays open when it has ended, in milliseconds -/
  stdoutHeld : Nat := 0
  /-- for how long its diagnostic output stays open -/
  stderrHeld : Nat := 0
  /-- why nobody can learn how it ends, if nobody can -/
  unwaited : Option String := none
deriving DecidableEq

/-- When a process has ended and both of its outputs are closed. -/
def Behaviour.closed (behaviour : Behaviour) : Nat :=
  behaviour.duration + max behaviour.stdoutHeld behaviour.stderrHeld

/-- The disk after a process has run to its end. -/
def Behaviour.applyTo (behaviour : Behaviour) (here : Place) (args : List String)
    (disk : Disk) : Disk :=
  match behaviour.output, args.getLast? with
  | some bytes, some path =>
    match disk.write here path bytes with
    | .ok disk => disk
    | .error _ => disk
  | _, _ => disk

/-- What processes are started in. -/
structure Host where
  /-- the working directory -/
  directory : Place
  /-- the directories in which programs are looked up, separated by colons -/
  searchPath : Option String
  /-- the home directory -/
  home : Option String
  /-- what the programs on the disk do, given their arguments -/
  programs : List (Place × (List String → Behaviour))

namespace Host

/-! ## Starting -/

/-- The program at a path. -/
def programAt (host : Host) (disk : Disk) (path : String) :
    Except FileFault (List String → Behaviour) := do
  let place ← disk.locate host.directory path
  match disk.node? place with
  | none => throw .notFound
  | some .directory => throw .denied
  | some (.file _ false) => throw .denied
  | some (.file _ true) =>
    match host.programs.lookup place with
    | some program => return program
    | none => throw .notRunnable

/-- The parts of a text between colons. -/
def splitAtColons : List Char → List (List Char)
  | [] => [[]]
  | c :: rest =>
    match splitAtColons rest with
    | [] => [[c]]
    | part :: parts => if c = ':' then [] :: part :: parts else (c :: part) :: parts

/-- The directories of a search path. An empty one stands for the working
directory. -/
def searchDirectories (searchPath : String) : List String :=
  (splitAtColons searchPath.toList).map String.ofList

/-- The first program of a name in some directories. A file that must not be
started is passed over, but is the reason if nothing else is found. -/
def search (host : Host) (disk : Disk) (name : String) (reason : FileFault) :
    List String → Except FileFault (List String → Behaviour)
  | [] => .error reason
  | directory :: rest =>
    match host.programAt disk (Path.join directory name) with
    | .ok program => .ok program
    | .error .notFound => host.search disk name reason rest
    | .error .notDirectory => host.search disk name reason rest
    | .error .denied => host.search disk name .denied rest
    | .error fault => .error fault

/-- The program of a name, which is looked up, or at a path. -/
def program (host : Host) (disk : Disk) (name : String) :
    Except FileFault (List String → Behaviour) :=
  if name.isEmpty then .error .notFound
  else if name.toList.contains '/' then host.programAt disk name
  else host.search disk name .notFound
    (searchDirectories (host.searchPath.getD "/bin:/usr/bin"))

/-- Start a program: what the process is going to do. -/
def start (host : Host) (disk : Disk) (name : String) (args : List String) :
    Except FileFault Behaviour :=
  if (name :: args).any fun text => text.toList.contains (Char.ofNat 0) then
    .error .nulInArgument
  else (host.program disk name).map fun program => program args

/-! ## Finding -/

/-- Why a program cannot be found. -/
inductive SearchFault where
  | noSearchPath
  | notFound

/-- How a failure to find a program is worded. -/
def SearchFault.message : SearchFault → String
  | noSearchPath => "no path to search and provided name is not an absolute path"
  | notFound => "cannot find binary path"

/-- Whether an executable file stands at a path. -/
def isExecutable (host : Host) (disk : Disk) (path : String) : Bool :=
  match disk.find? host.directory path with
  | some (.file _ executable) => executable
  | _ => false

/-- The path of a place. -/
def placeText (place : Place) : String := "/" ++ "/".intercalate place

/-- Segments of a path that name something or step up. -/
def named (path : String) : List String :=
  (Path.segments path).filter fun segment => !segment.isEmpty && segment != "."

/-- Whether a path leads over more than one segment. -/
def hasSeveralSegments (path : String) : Bool :=
  let first := if Path.isAbsolute path || (Path.segments path).head? == some "." then 1 else 0
  decide (1 < first + (named path).length)

/-- A directory with a tilde in its first place stands for one below the home
directory. -/
def expanded (host : Host) (directory : String) : String :=
  match Path.segments directory, host.home with
  | "~" :: _, some home => ((named directory).drop 1).foldl Path.join home
  | _, _ => directory

/-- The full path of an executable file. A path of several segments is taken
from the working directory, a single name is looked up. -/
def findProgram (host : Host) (disk : Disk) (path : String) : Except SearchFault String :=
  if hasSeveralSegments path then
    let full :=
      if Path.isAbsolute path then path
      else (named path).foldl Path.join (placeText host.directory)
    if host.isExecutable disk full then .ok full else .error .notFound
  else
    match host.searchPath with
    | none => .error .noSearchPath
    | some searchPath =>
      let candidates := (searchDirectories searchPath).map fun directory =>
        Path.join (host.expanded directory) path
      match candidates.find? (host.isExecutable disk) with
      | some full => .ok full
      | none => .error .notFound

end Host

end Montage
