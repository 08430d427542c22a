import Montage.Engine.Error
import Montage.Host.Process

/-!
# Sessions

A session is what can be seen of the work so far: the disk, the processes that
were started, and the events that were logged.
-/

namespace Montage

/-- The phases of a request. -/
inductive Phase where
  | idle
  | stagingInputs
  | running
  | extractingMetadata
  | done
  | failed
deriving DecidableEq

namespace Phase

/-- All phases in order. -/
def all : List Phase := [idle, stagingInputs, running, extractingMetadata, done, failed]

/-- The name of a phase. -/
def name : Phase → String
  | idle => "idle"
  | stagingInputs => "staging_inputs"
  | running => "running"
  | extractingMetadata => "extracting_metadata"
  | done => "done"
  | failed => "failed"

end Phase

/-- How much an event matters. -/
inductive Severity where
  | info
  | warning
  | error
deriving DecidableEq

/-- The name of a severity. -/
def Severity.name : Severity → String
  | info => "INFO"
  | warning => "WARN"
  | error => "ERROR"

/-- An event of a request. -/
structure Event where
  severity : Severity
  /-- the phase that the request enters, if it enters one -/
  phase : Option Phase := none
  /-- the kind of the error that ends the request -/
  errorKind : Option String := none
  message : String
deriving DecidableEq

/-- A process that was started. -/
structure Launch where
  program : String
  args : List String
  /-- how the process was going to behave -/
  behaviour : Behaviour
  /-- the disk that it found -/
  disk : Disk

/-- What can be seen of the work so far. -/
structure Session where
  disk : Disk
  launches : List Launch := []
  events : List Event := []

namespace Session

/-- The session with one more event. -/
def log (session : Session) (event : Event) : Session :=
  { session with events := session.events ++ [event] }

/-- Log that a request enters a phase. -/
def enter (session : Session) (phase : Phase) (message : String) : Session :=
  session.log { severity := .info, phase := some phase, message }

/-- Log a problem that does not end a request. -/
def warn (session : Session) (message : String) : Session :=
  session.log { severity := .warning, message }

/-- Log the error that ends a request. -/
def fail (session : Session) (error : Error) : Session :=
  session.log {
    severity := .error
    phase := some .failed
    errorKind := some error.kind
    message := "Request failed: " ++ error.message }

/-- The session with one more process. -/
def launch (session : Session) (launch : Launch) : Session :=
  { session with launches := session.launches ++ [launch] }

/-- Start a process: note it, and say what it is going to do. -/
def start (session : Session) (host : Host) (program : String) (args : List String) :
    Except FileFault (Behaviour × Session) :=
  (host.start session.disk program args).map fun behaviour =>
    (behaviour, session.launch ⟨program, args, behaviour, session.disk⟩)

end Session

end Montage
