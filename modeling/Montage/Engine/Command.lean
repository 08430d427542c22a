import Montage.Program.Basic

/-!
# Command lines

The command line of the engine: fixed switches and the log level, the input
files, the filter graph if there is one, the output arguments, and the output
file. It is put together step by step.
-/

namespace Montage

/-- The parts of a command line. -/
structure EngineCommand where
  output : String
  /-- input files in the order of their indices -/
  inputs : List String := []
  /-- filter graph; an empty one is left out -/
  graph : String := ""
  /-- arguments between the inputs and the output -/
  outputArgs : List String := []
  logLevel : String := "error"
deriving DecidableEq

namespace EngineCommand

/-- One step of putting a command line together. -/
inductive Step where
  | input (path : String)
  | inputs (paths : List String)
  | graph (text : String)
  | arg (text : String)
  | args (texts : List String)
  /-- map a stream into the output -/
  | map (target : String)
  | logLevel (level : String)

/-- A command line after one more step. -/
def apply (command : EngineCommand) : Step → EngineCommand
  | .input path => { command with inputs := command.inputs ++ [path] }
  | .inputs paths => { command with inputs := command.inputs ++ paths }
  | .graph text => { command with graph := text }
  | .arg text => { command with outputArgs := command.outputArgs ++ [text] }
  | .args texts => { command with outputArgs := command.outputArgs ++ texts }
  | .map target => { command with outputArgs := command.outputArgs ++ ["-map", target] }
  | .logLevel level => { command with logLevel := level }

/-- The command line that steps put together around an output file. -/
def ofSteps (output : String) (steps : List Step) : EngineCommand :=
  steps.foldl apply { output }

/-- The arguments of a command line. -/
def args (command : EngineCommand) : List String :=
  ["-y", "-hide_banner", "-nostdin", "-v", command.logLevel] ++
    command.inputs.flatMap (["-i", ·]) ++
    (if command.graph.isEmpty then [] else ["-filter_complex", command.graph]) ++
    command.outputArgs ++ [command.output]

end EngineCommand

/-- The command line of a program over input files. -/
def Program.command (program : Program) (inputs : List String) (output : String) :
    EngineCommand where
  output
  inputs
  graph := program.graphText
  outputArgs := program.args

end Montage
