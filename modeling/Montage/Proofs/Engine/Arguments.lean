import Montage.Engine.Command
import Mathlib.Data.List.Induction

/-!
# Arguments of command lines

However the steps that put a command line together are mixed, its arguments
stand in one order: the switches with the last log level, the input files, the
last graph unless it is empty, the output arguments, the output file
(`EngineCommand.args_follow_steps`). Only the order within each of these groups
comes from the steps.
-/

namespace Montage.EngineCommand

/-! ## What steps say -/

namespace Step

/-- The input files that a step adds. -/
def inputPaths : Step → List String
  | .input path => [path]
  | .inputs paths => paths
  | _ => []

/-- The output arguments that a step adds. -/
def addedArgs : Step → List String
  | .arg text => [text]
  | .args texts => texts
  | .map target => ["-map", target]
  | _ => []

/-- The filter graph that a step sets. -/
def graph? : Step → Option String
  | .graph text => some text
  | _ => none

/-- The log level that a step sets. -/
def logLevel? : Step → Option String
  | .logLevel level => some level
  | _ => none

end Step

/-- The last value that any of some steps sets. -/
def lastSet? (value? : Step → Option String) (steps : List Step) : Option String :=
  (steps.filterMap value?).getLast?

/-- A step that sets a value sets it anew, and any other step leaves it. -/
theorem lastSet?_concat (value? : Step → Option String) (steps : List Step) (step : Step) :
    lastSet? value? (steps ++ [step]) = (value? step).or (lastSet? value? steps) := by
  unfold lastSet?
  rw [List.filterMap_append]
  cases set : value? step with
  | none => simp [set]
  | some value => simp [set]

/-! ## Runs of steps -/

/-- A command line that says what the steps so far have said. -/
structure Follows (command : EngineCommand) (output : String) (steps : List Step) : Prop where
  output : command.output = output
  inputs : command.inputs = steps.flatMap Step.inputPaths
  graph : command.graph = (lastSet? Step.graph? steps).getD ""
  outputArgs : command.outputArgs = steps.flatMap Step.addedArgs
  logLevel : command.logLevel = (lastSet? Step.logLevel? steps).getD "error"

/-- One more step is followed as well: it changes one part and no other. -/
theorem Follows.apply {command : EngineCommand} {output : String} {steps : List Step}
    (follows : command.Follows output steps) (step : Step) :
    (command.apply step).Follows output (steps ++ [step]) where
  output := by
    cases step <;> exact follows.output
  inputs := by
    rw [List.flatMap_append, ← follows.inputs]
    cases step <;> simp [EngineCommand.apply, Step.inputPaths]
  graph := by
    rw [lastSet?_concat]
    cases step <;> simp [EngineCommand.apply, Step.graph?, follows.graph]
  outputArgs := by
    rw [List.flatMap_append, ← follows.outputArgs]
    cases step <;> simp [EngineCommand.apply, Step.addedArgs]
  logLevel := by
    rw [lastSet?_concat]
    cases step <;> simp [EngineCommand.apply, Step.logLevel?, follows.logLevel]

theorem follows_ofSteps (output : String) (steps : List Step) :
    (ofSteps output steps).Follows output steps := by
  induction steps using List.reverseRecOn with
  | nil => exact ⟨rfl, rfl, rfl, rfl, rfl⟩
  | append_singleton steps step ih =>
      have last : ofSteps output (steps ++ [step]) = (ofSteps output steps).apply step := by
        simp [ofSteps]
      rw [last]
      exact ih.apply step

/-! ## Arguments -/

/-- The arguments for a filter graph, if there is one that is not empty. -/
def graphArgs : Option String → List String
  | some graph => if graph = "" then [] else ["-filter_complex", graph]
  | none => []

/-- Two runs of steps that agree on the input files and the output arguments, each
in their order, and on the last graph and the last log level. -/
structure Agree (steps others : List Step) : Prop where
  inputs : steps.flatMap Step.inputPaths = others.flatMap Step.inputPaths
  graph : lastSet? Step.graph? steps = lastSet? Step.graph? others
  outputArgs : steps.flatMap Step.addedArgs = others.flatMap Step.addedArgs
  logLevel : lastSet? Step.logLevel? steps = lastSet? Step.logLevel? others

/-- The arguments of a command line by what its steps say, in whatever order they
come. So runs of steps that agree on the parts put the same arguments
together. -/
theorem args_follow_steps (output : String) :
    (∀ steps, (ofSteps output steps).args =
      ["-y", "-hide_banner", "-nostdin", "-v", (lastSet? Step.logLevel? steps).getD "error"] ++
        (steps.flatMap Step.inputPaths).flatMap (["-i", ·]) ++
        graphArgs (lastSet? Step.graph? steps) ++
        steps.flatMap Step.addedArgs ++ [output]) ∧
    ∀ steps others, Agree steps others →
      (ofSteps output steps).args = (ofSteps output others).args := by
  have parts : ∀ steps, (ofSteps output steps).args =
      ["-y", "-hide_banner", "-nostdin", "-v", (lastSet? Step.logLevel? steps).getD "error"] ++
        (steps.flatMap Step.inputPaths).flatMap (["-i", ·]) ++
        graphArgs (lastSet? Step.graph? steps) ++
        steps.flatMap Step.addedArgs ++ [output] := by
    intro steps
    obtain ⟨target, inputs, graph, outputArgs, logLevel⟩ := follows_ofSteps output steps
    have graphs : (if (ofSteps output steps).graph.isEmpty then []
        else ["-filter_complex", (ofSteps output steps).graph]) =
        graphArgs (lastSet? Step.graph? steps) := by
      rw [graph]
      cases lastSet? Step.graph? steps with
      | none => rfl
      | some text => simp [graphArgs]
    rw [args, graphs, target, inputs, outputArgs, logLevel]
  refine ⟨parts, ?_⟩
  rintro steps others ⟨inputs, graph, outputArgs, logLevel⟩
  rw [parts, parts, inputs, graph, outputArgs, logLevel]

/-- Steps of all kinds in a mixed order: the graph is cleared and set again. -/
def mixed : List Step :=
  [.arg "-r", .graph "[0:v]null[v]", .input "a.mp4", .logLevel "debug", .graph "", .args ["25"],
    .inputs ["b.wav", "c.png"], .map "[v]", .graph "[1:a]anull[s]", .logLevel "info"]

/-- Steps that say the same as the mixed ones. -/
def sorted : List Step :=
  [.logLevel "info", .inputs [], .inputs ["a.mp4", "b.wav"], .input "c.png",
    .graph "[1:a]anull[s]", .args ["-r", "25", "-map", "[v]"]]

theorem args_follow_steps_mixed :
    Agree mixed sorted ∧ (ofSteps "out.mp4" mixed).args = (ofSteps "out.mp4" sorted).args ∧
    (ofSteps "out.mp4" mixed).args =
      ["-y", "-hide_banner", "-nostdin", "-v", "info", "-i", "a.mp4", "-i", "b.wav", "-i", "c.png",
        "-filter_complex", "[1:a]anull[s]", "-r", "25", "-map", "[v]", "out.mp4"] := by
  obtain ⟨parts, congruent⟩ := args_follow_steps "out.mp4"
  have agree : Agree mixed sorted := ⟨by decide, by decide, by decide, by decide⟩
  exact ⟨agree, congruent mixed sorted agree, (parts mixed).trans (by decide)⟩

end Montage.EngineCommand
