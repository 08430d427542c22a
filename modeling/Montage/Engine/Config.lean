import Montage.Decimal.Reading
import Montage.Host.Environment
import Montage.Path
import Montage.Text.Blank
import Montage.Text.Lower

/-!
# Engine configuration

Which programs are run, for how long, where files are staged, and whether the
output is probed. Each setting has a default that a variable can replace; a
variable whose value cannot be read leaves the default in place.
-/

namespace Montage

/-- How requests are carried out. -/
structure EngineConfig where
  /-- the engine's program: a name to look up or a path -/
  ffmpeg : String := "ffmpeg"
  /-- the probe's program -/
  ffprobe : String := "ffprobe"
  /-- how long the engine may run, in milliseconds -/
  timeout : Nat := 600000
  /-- where the staging directories are made -/
  workDirectory : String := "/tmp/vcomp"
  /-- what the engine writes to its diagnostic output -/
  logLevel : String := "error"
  /-- whether the output is probed for its description -/
  probeOutput : Bool := true
deriving DecidableEq

namespace EngineConfig

/-- A switch by one of its names, in any letter case and with blanks around
it. -/
def switch? (text : String) : Option Bool :=
  let name := Text.lower (Text.trim text)
  if ["1", "true", "yes", "on"].contains name then some true
  else if ["0", "false", "no", "off"].contains name then some false
  else none

/-- A whole number of seconds of at most 64 bits, in milliseconds. -/
def seconds? (text : String) : Option Nat :=
  (Decimal.natUpTo? (UInt64.size - 1) text).map (1000 * ·)

/-- The configuration that an environment asks for. -/
def ofEnvironment (environment : Environment) : EngineConfig :=
  let default : EngineConfig :=
    { workDirectory := Path.join environment.temporaryDirectory "vcomp" }
  { ffmpeg := (environment.text? "VCOMP_FFMPEG_PATH").getD default.ffmpeg
    ffprobe := (environment.text? "VCOMP_FFPROBE_PATH").getD default.ffprobe
    timeout := ((environment.text? "VCOMP_TIMEOUT_SECS").bind seconds?).getD default.timeout
    workDirectory := (environment.text? "VCOMP_WORK_DIR").getD default.workDirectory
    logLevel := (environment.text? "VCOMP_FFMPEG_LOGLEVEL").getD default.logLevel
    probeOutput :=
      ((environment.text? "VCOMP_PROBE_OUTPUT").bind switch?).getD default.probeOutput }

end EngineConfig

end Montage
