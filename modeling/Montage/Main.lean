import Montage.Cli.Run

/-!
# The program

Brings the files that a command may look at into a disk, runs the command on
it, and brings what has changed back. Nothing is decided here. Programs are
known by their files only, so a command that would have to start one reports
that it cannot be run.
-/

namespace Montage.Main

/-- The variables that the tool or its environment file may look at. -/
def variableNames : List String :=
  ["HOME", "PATH", "RUST_LOG", "TMPDIR", "USER", "VCOMP_FFMPEG_LOGLEVEL", "VCOMP_FFMPEG_PATH",
    "VCOMP_FFPROBE_PATH", "VCOMP_PROBE_OUTPUT", "VCOMP_TIMEOUT_SECS", "VCOMP_WORK_DIR"]

/-- The variables that are set. -/
def readEnvironment : IO Environment := do
  let mut environment : Environment := {}
  for name in variableNames do
    if let some value ← IO.getEnv name then
      environment := environment.set name value
  return environment

/-- The path of a place. -/
def pathOf (place : Place) : String := Host.placeText place

/-- Bring the node at a place onto a disk, with the directories above it. -/
def bringIn (disk : Disk) (place : Place) : IO Disk := do
  let current ← IO.currentDir
  let mut disk := disk
  for size in List.range (place.length + 1) do
    let above := place.take size
    if ← (current / pathOf above).isDir then
      disk := disk.put above .directory
    else if ← (current / pathOf above).pathExists then
      let bytes ← IO.FS.readBinFile (pathOf above)
      disk := disk.put above (.file bytes.data.toList true)
  return disk

/-- Bring some paths onto a disk. -/
def bringInAll (disk : Disk) (here : Place) (paths : List String) : IO Disk :=
  paths.foldlM (fun disk path => bringIn disk (Disk.placeOf here path)) disk

/-- The paths that a manifest names, if there is one at a path. -/
def namedBy (disk : Disk) (here : Place) (path : String) : List String :=
  match Cli.loadManifest ⟨here, none, none, []⟩ disk path with
  | .ok manifest => manifest.sources.map (·.path)
  | .error _ => []

/-- The paths under which a program may be found. -/
def programPaths (host : Host) (program : String) : List String :=
  program :: (Host.searchDirectories (host.searchPath.getD "")).map fun directory =>
    Path.join (host.expanded directory) program

/-- Bring what has changed back to the file system. -/
def bringBack (before after : Disk) : IO Unit := do
  for (place, node) in after.entries do
    if before.node? place ≠ some node then
      match node with
      | .directory => IO.FS.createDirAll (pathOf place)
      | .file bytes _ => IO.FS.writeBinFile (pathOf place) ⟨bytes.toArray⟩

/-- An identifier for a request. -/
def freshId : IO String := do
  let digits ← (List.range 32).mapM fun _ => do
    return (Nat.digitChar (← IO.rand 0 15))
  return String.ofList digits

/-- Run the tool. -/
def run (args : List String) : IO UInt32 := do
  let here := Disk.placeOf [] (toString (← IO.currentDir))
  let environment ← readEnvironment
  let operands := args.filter fun text => !text.startsWith "-"
  let disk ← bringInAll {} here ([".", ".env"] ++ operands)
  let extended := (Cli.EnvironmentFile.extend environment disk here).getD environment
  let config := EngineConfig.ofEnvironment extended
  let host : Host := ⟨here, extended.text? "PATH", extended.homeDirectory?, []⟩
  let disk ← bringInAll disk here
    (config.workDirectory :: operands.flatMap (namedBy disk here) ++
      programPaths host config.ffmpeg ++ programPaths host config.ffprobe)
  let request : Request := { id := ← freshId, suffix := "0" }
  let outcome := Cli.run [] here environment request args disk {}
  bringBack disk outcome.session.disk
  let outcome ←
    try
      IO.print outcome.stdout
      pure outcome
    catch _ => pure (Cli.run [] here environment request args disk { capacity := some 0 })
  for error in outcome.errors do
    IO.eprintln ("ERROR vcomp: " ++ error)
  return outcome.exitCode.toUInt32

end Montage.Main

/-- The entry point. -/
def main (args : List String) : IO UInt32 := Montage.Main.run args
