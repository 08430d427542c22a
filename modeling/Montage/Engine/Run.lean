import Montage.Engine.Probe
import Montage.Engine.Session

/-!
# Running programs

The engine runs until it ends, until its deadline, or until a signal cancels it;
a process that has not ended by then is killed. What it wrote is dropped if its
outputs stay open for too long when it is gone. The probe has a deadline of its
own, by which its outputs must be closed too, and describes a file by the report
that it writes.
-/

namespace Montage

/-- What a process wrote that ended well. -/
structure RunOutput where
  stdout : Bytes
  /-- the diagnostic output as text -/
  stderr : String

/-- For how long an output is waited for when its process has ended, in
milliseconds. -/
def captureGrace : Nat := 5000

/-- What is captured of the output of a process. -/
def Behaviour.capturedStdout (behaviour : Behaviour) : Bytes :=
  if behaviour.stdoutHeld ≤ captureGrace then behaviour.stdout else []

/-- What is captured of the diagnostic output of a process: it is waited for after
the other one. -/
def Behaviour.capturedStderr (behaviour : Behaviour) : Bytes :=
  if behaviour.stderrHeld ≤ min behaviour.stdoutHeld captureGrace + captureGrace then
    behaviour.stderr
  else []

/-- A moment that comes while a process runs, in milliseconds from its
start. -/
def reached? (moment : Option Nat) (behaviour : Behaviour) : Option Nat :=
  moment.filter (· ≤ behaviour.duration)

/-- What cuts a process short, if anything does: its deadline, or the signal
that cancels it if that comes no later. -/
def interruption? (deadline signal : Option Nat) (behaviour : Behaviour) : Option Error :=
  match reached? deadline behaviour, reached? signal behaviour with
  | none, none => none
  | some limit, none => some (.timeout limit)
  | none, some _ => some .cancelled
  | some limit, some moment => if moment ≤ limit then some .cancelled else some (.timeout limit)

/-- What comes of a process that has run to its end. -/
def Behaviour.outcome (behaviour : Behaviour) (program : String) : Except Error RunOutput :=
  match behaviour.unwaited with
  | some message => .error (.io message)
  | none =>
    let stderr := Text.Utf8.decodeLossy behaviour.capturedStderr
    if behaviour.ending.isSuccess then .ok ⟨behaviour.capturedStdout, stderr⟩
    else
      .error (.engine (program ++ " exited with " ++ behaviour.ending.text) stderr
        behaviour.ending.exitCode none)

/-- Run a program to its end, within a deadline and unless a signal cancels it,
both in milliseconds from its start. -/
def runUntil (host : Host) (program : String) (args : List String)
    (deadline signal : Option Nat) (session : Session) : Except Error RunOutput × Session :=
  match session.start host program args with
  | .error fault => (.error (.spawn program fault.message), session)
  | .ok (behaviour, session) =>
    match interruption? deadline signal behaviour with
    | some error => (.error error, session)
    | none =>
      (behaviour.outcome program,
        { session with disk := behaviour.applyTo host.directory args session.disk })

/-- Run a program that is cancelled from the start or not at all. -/
def run (host : Host) (program : String) (args : List String) (deadline : Option Nat)
    (cancelled : Bool) (session : Session) : Except Error RunOutput × Session :=
  runUntil host program args deadline (if cancelled then some 0 else none) session

/-- Find an engine program. -/
def findEngine (host : Host) (disk : Disk) (program : String) : Except Error String :=
  (host.findProgram disk program).mapError fun fault => .spawn program fault.message

/-! ## Probing -/

/-- How long a probe may run, in milliseconds. -/
def probeDeadline : Nat := 30000

/-- The arguments of a probe before the file. -/
def probeArgs : List String :=
  ["-v", "quiet", "-print_format", "json", "-show_format", "-show_streams"]

/-- The error of a probe that takes too long. -/
def probeTimedOut : Error :=
  .probe ("FFprobe timed out after " ++ (Error.seconds probeDeadline).tenthsText ++ "s") none

/-- The error of a probe that cannot be run. -/
def probeNotRun (ffprobe message : String) : Error :=
  .probe ("Failed to run " ++ ffprobe ++ ": " ++ message) none

/-- The description that comes of a probe that has run to its end. -/
def Behaviour.description (behaviour : Behaviour) (ffprobe : String) :
    Except Error AssetMetadata :=
  match behaviour.unwaited with
  | some message => .error (probeNotRun ffprobe message)
  | none =>
    if probeDeadline ≤ behaviour.closed then .error probeTimedOut
    else if !behaviour.ending.isSuccess then
      .error (.probe "FFprobe failed" (some (Text.Utf8.decodeLossy behaviour.stderr)))
    else
      (Probe.metadataOf behaviour.stdout).mapError fun cause =>
        .probe ("Unreadable FFprobe output: " ++ cause.message) none

/-- Describe the file at a path with a probe. -/
def probeFile (host : Host) (ffprobe path : String) (session : Session) :
    Except Error AssetMetadata × Session :=
  if (session.disk.find? host.directory path).isNone then
    (.error (.probe ("File not found: " ++ path) none), session)
  else
    let args := probeArgs ++ [path]
    match session.start host ffprobe args with
    | .error fault => (.error (probeNotRun ffprobe fault.message), session)
    | .ok (behaviour, session) =>
      if probeDeadline ≤ behaviour.duration then (.error probeTimedOut, session)
      else
        (behaviour.description ffprobe,
          { session with disk := behaviour.applyTo host.directory args session.disk })

end Montage
