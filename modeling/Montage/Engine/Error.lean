import Montage.Program.Basic

/-!
# Errors

What can go wrong between a composition and its output, from the first check
to the removal of the staging directory.
-/

namespace Montage

/-- An error of a composition request. -/
inductive Error where
  | invalidComposition (message : String)
  /-- with the text of the statement at fault, if there is one -/
  | graphBuild (message : String) (statement : Option String)
  /-- a process could not be started -/
  | spawn (program message : String)
  /-- the engine ended badly; no exit code if a signal ended it -/
  | engine (message stderr : String) (exitCode : Option Int) (filterGraph : Option String)
  | timeout (milliseconds : Nat)
  | cancelled
  | probe (message : String) (stderr : Option String)
  | cleanup (message : String)
  | io (message : String)
  | internal (message : String)
deriving DecidableEq

namespace Error

/-- A duration as seconds: whole seconds and the fraction are converted apart
and then added. -/
def seconds (milliseconds : Nat) : Binary64 :=
  Binary64.ofNat (milliseconds / 1000) +
    Binary64.ofNat (milliseconds % 1000 * 1000000) / 1000000000

/-- How an error is worded. -/
def message : Error → String
  | invalidComposition message => "Invalid composition: " ++ message
  | graphBuild message _ => "Filter graph build failed: " ++ message
  | spawn program message => "Failed to spawn " ++ program ++ ": " ++ message
  | engine message _ _ _ => "FFmpeg command failed: " ++ message
  | timeout milliseconds =>
    "Engine timed out after " ++ (seconds milliseconds).tenthsText ++ "s"
  | cancelled => "Operation cancelled"
  | probe message _ => "FFprobe command failed: " ++ message
  | cleanup message => "Cleanup failed: " ++ message
  | io message => "IO error: " ++ message
  | internal message => "Internal error: " ++ message

/-- The name of an error's kind. -/
def kind : Error → String
  | invalidComposition _ => "invalid_composition"
  | graphBuild _ _ => "graph_build"
  | spawn _ _ => "spawn"
  | engine _ _ _ _ => "engine"
  | timeout _ => "timeout"
  | cancelled => "cancelled"
  | probe _ _ => "metadata_probe"
  | cleanup _ => "cleanup"
  | io _ => "io"
  | internal _ => "internal"

/-- Whether an error arises before any process is started. -/
def isPreExecution : Error → Bool
  | invalidComposition _ => true
  | graphBuild _ _ => true
  | _ => false

/-- An error of the engine with the filter graph that it ran; other errors
stay as they are. -/
def withFilterGraph (graph : String) : Error → Error
  | engine message stderr exitCode _ => engine message stderr exitCode (some graph)
  | error => error

/-- A build fault as an error. -/
def ofFault : BuildFault → Error
  | .notSimple => internal BuildFault.notSimple.message
  | fault => graphBuild fault.message (fault.statement?.map Statement.text)

end Error

end Montage
