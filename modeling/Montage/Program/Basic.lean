import Montage.Composition.Check
import Montage.Filter
import Montage.Graph.Fragment
import Montage.Graph.Validation

/-!
# Programs

A program is what the engine is asked to do: a filter graph over numbered
inputs, the final streams, and the arguments that follow the inputs. Building
one ends in a graph whose labels are all accounted for, or in a fault.
-/

namespace Montage

/-- A video and an audio stream by their labels, each if there is one. -/
structure Streams where
  video : Option String := none
  audio : Option String := none
deriving DecidableEq

namespace Streams

/-- The stream of a kind. -/
def get (streams : Streams) : MediaKind → Option String
  | .video => streams.video
  | .audio => streams.audio

/-- The streams with another one of a kind. -/
def set (streams : Streams) (kind : MediaKind) (label : Option String) : Streams :=
  match kind with
  | .video => { streams with video := label }
  | .audio => { streams with audio := label }

/-- The labels of the streams, video first. -/
def labels (streams : Streams) : List String := streams.video.toList ++ streams.audio.toList

end Streams

/-- A composition turned into work for the engine. -/
structure Program where
  graph : FilterGraph
  final : Streams
  /-- output mappings, then encoder settings -/
  args : List String
  /-- assets in the order of the engine's inputs -/
  inputs : List Asset
  format : String
  /-- the size of the video that layers are laid on -/
  baseResolution : Option Resolution
  /-- whether the program came from the single-pass route -/
  singlePass : Bool
deriving DecidableEq

namespace Program

/-- The kind of asset that comes out. -/
def outputKind (program : Program) : MediaKind :=
  if program.final.video.isSome then .video else .audio

/-- The filter graph for the engine. -/
def graphText (program : Program) : String := program.graph.text

/-- The filter graph for people, one statement on each line. -/
def prettyGraph (program : Program) : String := program.graph.textWith ";\n"

end Program

/-- Why no program can be built. -/
inductive BuildFault where
  | unacceptable (violation : Violation)
  /-- a layer needs more than the single-pass route can do -/
  | notSimple
  | silenceOfUnknownLength (clip : Nat)
  | finalStreamLost (kind : MediaKind) (statement : Statement)
  | badLabel (fault : StatementFault)
  | noOutput
  | finalNotDeclared (label : String)
  | finalConsumed (label : String)
  | loose (label : String)
deriving DecidableEq

namespace BuildFault

/-- How a fault is worded. -/
def message : BuildFault → String
  | unacceptable violation => violation.message
  | notSimple => "composition needs the full compiler but was routed to the overlay pass"
  | silenceOfUnknownLength clip =>
    "clip " ++ toString clip ++
      " has no audio track and no known duration to fill with silence"
  | finalStreamLost kind _ =>
    "custom filter consumes the final " ++ kind.name ++
      " stream without producing a replacement"
  | badLabel fault => fault.fault.message
  | noOutput => "composition produces no output streams"
  | finalNotDeclared label =>
    "final label " ++ Statement.bracketed label ++ " is never declared"
  | finalConsumed label =>
    "final label " ++ Statement.bracketed label ++ " is consumed inside the graph"
  | loose label =>
    "label " ++ Statement.bracketed label ++ " is neither consumed nor mapped to the output"

/-- The statement a fault stands in, if it stands in one. -/
def statement? : BuildFault → Option Statement
  | finalStreamLost _ statement => some statement
  | badLabel fault => some fault.statement
  | _ => none

end BuildFault

namespace Composition

/-! ## Common steps -/

/-- The label of an input's stream. -/
def streamLabel (kind : MediaKind) (index : Nat) : String :=
  toString index ++ match kind with
    | .video => ":v"
    | .audio => ":a"

/-- The streams of the main asset itself. -/
def mainStreams (composition : Composition) : Streams where
  video :=
    if composition.main.isVideo then some (streamLabel .video composition.mainIndex) else none
  audio :=
    if composition.main.hasAudio then some (streamLabel .audio composition.mainIndex) else none

/-- The size of the video that layers are laid on, if there is a video. A
sequence has the requested size before the main asset's, a single clip its own
before the requested one. -/
def baseResolution (composition : Composition) (sequenced : Bool) : Option Resolution :=
  if composition.main.isVideo then
    let own := composition.main.metadata.dimensions.map fun (width, height) =>
      (⟨width, height⟩ : Resolution)
    let requested := composition.output.resolution
    let known := if sequenced then requested <|> own else own <|> requested
    some (known.getD .fullHD)
  else none

/-- Mix audio streams into one, unless there is but one. -/
def mixStreams : List String → List Statement × Option String
  | [] => ([], none)
  | [source] => ([], some source)
  | sources => ([⟨.mix, sources, ["mixa"], Filter.mix sources.length⟩], some "mixa")

/-- Give a final stream the label that is asked for: rename the output that
declares it, or pass a stream of an input through. -/
def relabel (kind : MediaKind) (requested : Option String) (graph : FilterGraph)
    (label : Option String) : FilterGraph × Option String :=
  match requested, label with
  | none, label => (graph, label)
  | some _, none => (graph, none)
  | some requested, some current =>
    if current = requested then (graph, some current)
    else
      match graph.renameOutput? current requested with
      | some graph => (graph, some requested)
      | none =>
        let body := match kind with
          | .video => "null"
          | .audio => "anull"
        (graph.push (.chain .passthrough current body requested), some requested)

/-! ## The last step -/

/-- The mapping of a final stream to the output. An input's audio is only
assumed to be there, so its mapping is marked as optional. -/
def mappingOf (graph : FilterGraph) (kind : MediaKind) (label : String) :
    Except BuildFault (List String) :=
  if isInputStream label then
    .ok ["-map", mapTarget label ++ match kind with
      | .video => ""
      | .audio => "?"]
  else if !graph.declares label then .error (.finalNotDeclared label)
  else if graph.consumes label then .error (.finalConsumed label)
  else .ok ["-map", mapTarget label]

/-- The mappings of the final streams to the output. -/
def mappings (graph : FilterGraph) (streams : Streams) : Except BuildFault (List String) := do
  let video ← (streams.video.map (mappingOf graph .video)).getD (.ok [])
  let audio ← (streams.audio.map (mappingOf graph .audio)).getD (.ok [])
  return video ++ audio

/-- Account for all labels of a graph and build the program. -/
def assemble (composition : Composition) (graph : FilterGraph) (streams : Streams)
    (baseResolution : Option Resolution) (singlePass : Bool) : Except BuildFault Program := do
  (graph.validate composition.inputs.length).mapError .badLabel
  if streams.labels.isEmpty then throw .noOutput
  let mappings ← mappings graph streams
  match graph.dangling.find? fun label => !streams.labels.contains label with
  | some label => throw (.loose label)
  | none => return {
      graph
      final := streams
      args := mappings ++
        composition.output.encoderArgs streams.video.isSome streams.audio.isSome
      inputs := composition.inputs
      format := composition.output.format
      baseResolution
      singlePass }

end Composition

end Montage
