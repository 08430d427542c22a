import Montage.Engine.Command
import Montage.Engine.Config
import Montage.Engine.Run
import Montage.Engine.Staging
import Montage.Program.Plan

/-!
# Requests

A request carries out one program: it stages the inputs, runs the engine, has
the output probed, and takes the output in. It logs each phase that it enters;
the last one is `done` or `failed`. The staging directory is removed however
the request ends.
-/

namespace Montage

/-- What tells one request from another. -/
structure Request where
  /-- the identifier in the name of the staging directory -/
  id : String
  /-- what makes the name of the staging directory unique -/
  suffix : String
  /-- whether the request is cancelled before the engine starts -/
  cancelled : Bool := false
  /-- when the request is cancelled otherwise, in milliseconds after that -/
  cancelledAfter : Option Nat := none

namespace Request

/-- When the signal that cancels a request reaches the engine, if there is
one. -/
def signal? (request : Request) : Option Nat :=
  if request.cancelled then some 0 else request.cancelledAfter

/-- What is known of an output that was not probed. -/
def unprobed (program : Program) : AssetMetadata :=
  { hasAudio := some program.final.audio.isSome }

/-- The description of the output, with a warning if the probe fails. -/
def describe (host : Host) (config : EngineConfig) (program : Program) (output : String)
    (session : Session) : AssetMetadata × Session :=
  if config.probeOutput then
    match probeFile host config.ffprobe output session with
    | (.ok metadata, session) => (metadata, session)
    | (.error error, session) =>
      (unprobed program,
        session.warn ("Returning output without metadata: " ++ error.message))
  else (unprobed program, session)

/-- Take in the output of the engine. -/
def collect (host : Host) (config : EngineConfig) (program : Program) (output : String)
    (session : Session) : Except Error Asset × Session :=
  let session := session.enter .extractingMetadata "Probing output"
  let (metadata, session) := describe host config program output session
  match session.disk.read host.directory output with
  | .error fault => (.error (.io fault.message), session)
  | .ok bytes =>
    (.ok {
      bytes
      kind := program.outputKind
      metadata := { metadata with format := some program.format } }, session)

/-- Run the engine over staged inputs. -/
def runEngine (request : Request) (host : Host) (config : EngineConfig) (program : Program)
    (inputs : List String) (output : String) (session : Session) :
    Except Error Asset × Session :=
  let session := session.enter .running "Running FFmpeg"
  let command := { program.command inputs output with logLevel := config.logLevel }
  match runUntil host config.ffmpeg command.args (some config.timeout) request.signal? session with
  | (.error error, session) => (.error (error.withFilterGraph program.graphText), session)
  | (.ok _, session) => collect host config program output session

/-- Carry out a program in a staging directory. -/
def runStaged (request : Request) (host : Host) (config : EngineConfig) (program : Program)
    (staging : Staging) (session : Session) : Except Error Asset × Session :=
  let session := session.enter .stagingInputs
    ("Staging " ++ toString program.inputs.length ++ " inputs in " ++ staging.path)
  match staging.stageAll host program.inputs session.disk with
  | (.error error, disk) => (.error error, { session with disk })
  | (.ok inputs, disk) =>
    request.runEngine host config program inputs (staging.outputPath program.format)
      { session with disk }

/-- Log the end of a request. -/
def conclude : Except Error Asset × Session → Except Error Asset × Session
  | (.ok output, session) =>
    (.ok output, session.enter .done
      ("Produced " ++ toString output.bytes.length ++ " bytes of " ++ output.kind.name))
  | (.error error, session) => (.error error, session.fail error)

/-- Carry out a program. -/
def execute (request : Request) (host : Host) (config : EngineConfig) (program : Program)
    (session : Session) : Except Error Asset × Session :=
  let session := session.enter .idle
    ("Accepted request: " ++ toString program.inputs.length ++ " inputs, " ++
      toString program.graph.statements.length ++ " statements, delegated=" ++
      (if program.singlePass then "true" else "false"))
  match Staging.create host config.workDirectory request.id request.suffix session.disk with
  | (.error error, disk) => conclude (.error error, { session with disk })
  | (.ok staging, disk) =>
    let (result, session) :=
      request.runStaged host config program staging { session with disk }
    conclude (result, { session with disk := staging.close session.disk })

/-- Plan a composition and carry out its program. A composition without a plan
leaves everything as it is. -/
def compose (request : Request) (host : Host) (config : EngineConfig)
    (composition : Composition) (session : Session) : Except Error Asset × Session :=
  match composition.plan with
  | .error error => (.error error, session)
  | .ok program => request.execute host config program session

end Request

end Montage
