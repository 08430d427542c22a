import Montage.Program.Basic

/-!
# Compiling compositions

The full route from a composition to a program. Statements are written in a
fixed order: the clips are brought to a common format and joined, each visual
layer is prepared, the layers are laid on one after the other, the audio is
mixed, and the raw fragments follow.
-/

namespace Montage.Composition

/-! ## Joining clips -/

/-- The frame rate of a sequence. -/
def sequenceFps (composition : Composition) : Binary64 :=
  match composition.output.fps <|> composition.main.metadata.frameRate with
  | some fps => if fps.isFinitePositive then fps else 30
  | none => 30

/-- The sample rate of a sequence. -/
def sequenceRate (composition : Composition) : UInt32 :=
  match composition.main.metadata.sampleRate with
  | some rate => if rate = 0 then 48000 else rate
  | none => 48000

/-- Whether any clip of the sequence has audio. -/
def anyClipHasAudio (composition : Composition) : Bool :=
  composition.sequence.any Asset.hasAudio

/-- The duration of a clip, if it is one that silence can be made for. -/
def usableDuration? (clip : Asset) : Option Binary64 :=
  clip.metadata.duration.filter Binary64.isFinitePositive

/-- Bring a clip's video to the common format. -/
def clipVideo (composition : Composition) (index : Nat) : Statement :=
  .chain .normalize (streamLabel .video index)
    (Filter.normalizeVideo ((composition.baseResolution true).getD .fullHD)
      composition.sequenceFps)
    ("v" ++ toString index)

/-- Bring a clip's audio to the common format, or make silence in its place. -/
def clipAudio (composition : Composition) (clip : Asset) (index : Nat) :
    Except BuildFault Statement :=
  let label := "a" ++ toString index
  if clip.hasAudio then
    .ok (.chain .normalizeAudio (streamLabel .audio index)
      (Filter.normalizeAudio composition.sequenceRate) label)
  else
    match usableDuration? clip with
    | some duration =>
      .ok ⟨.silentAudio, [], [label], Filter.silentAudio composition.sequenceRate duration⟩
    | none => .error (.silenceOfUnknownLength index)

/-- The statements for one clip: its video if the sequence has one, then its
audio if any clip has some. -/
def clipStatements (composition : Composition) (clip : Asset) (index : Nat) :
    Except BuildFault (List Statement) := do
  let video := if composition.main.isVideo then [composition.clipVideo index] else []
  if composition.anyClipHasAudio then
    let audio ← composition.clipAudio clip index
    return video ++ [audio]
  else return video

/-- Join the clips of a sequence; a single clip is left as it is. -/
def join (composition : Composition) : Except BuildFault (FilterGraph × Streams) := do
  if !composition.isSequenced then return ({}, composition.mainStreams)
  let clips := composition.sequence
  let parts ← clips.zipIdx.mapM fun (clip, index) => composition.clipStatements clip index
  let statements := parts.flatten
  let streams : Streams := {
    video := if composition.main.isVideo then some "basev" else none
    audio := if composition.anyClipHasAudio then some "basea" else none }
  let concat : Statement := ⟨.concat, statements.flatMap (·.outputs), streams.labels,
    Filter.concat clips.length composition.main.isVideo composition.anyClipHasAudio⟩
  return (⟨statements ++ [concat]⟩, streams)

/-! ## Preparing layers -/

/-- The visual layers with their places among all layers. -/
def visualLayers (composition : Composition) : List (Layer × Nat) :=
  composition.overlays.zipIdx.filter (·.1.isVisual)

/-- The audible layers with their places among all layers. -/
def audibleLayers (composition : Composition) : List (Layer × Nat) :=
  composition.overlays.zipIdx.filter (·.1.isAudible)

/-- One step of preparing a layer: its kind, its body, and how the link that
leads on from it is called. -/
structure PreparationStep where
  kind : FilterKind
  body : String
  name : String

/-- The size of a layer on a base of known size. -/
def scaleBody (base : Resolution) (spec : OverlaySpec) : String :=
  Filter.scale (spec.width.map (·.resolve base.width)) (spec.height.map (·.resolve base.height))

/-- The steps that prepare a layer: a lead-in if it is delayed, a colour key,
a size. -/
def preparation (base : Resolution) (spec : OverlaySpec) : List PreparationStep :=
  (if 0 < spec.start then [⟨.timePad, Filter.timePad spec.start, "pad"⟩] else []) ++
  (spec.colorKey.map fun color => (⟨.colorKey,
    Filter.colorKey color spec.effectiveSimilarity spec.effectiveBlend, "key"⟩ :
      PreparationStep)).toList ++
  (if spec.width.isSome || spec.height.isSome then [⟨.scale, scaleBody base spec, "scaled"⟩]
  else [])

/-- The label of a prepared layer. -/
def preparedLabel (layer : Nat) : String := "overlayProcessed" ++ toString layer

/-- The label of a layer's link of a given name. -/
def layerLabel (layer : Nat) (name : String) : String :=
  "ov" ++ toString layer ++ "_" ++ name

/-- Link preparation steps one after the other: the statements and the label
they end in, which without steps is where they start. -/
def linkSteps (layer : Nat) (input : String) : List PreparationStep → List Statement × String
  | [] => ([], input)
  | [step] =>
    ([.chain step.kind input step.body (preparedLabel layer)], preparedLabel layer)
  | step :: next :: rest =>
    let output := layerLabel layer step.name
    let (statements, last) := linkSteps layer output (next :: rest)
    (.chain step.kind input step.body output :: statements, last)

/-- Prepare a visual layer. -/
def prepareLayer (composition : Composition) (base : Resolution) (layer : Layer)
    (place : Nat) : List Statement × String :=
  linkSteps place (streamLabel .video (composition.layerIndex place))
    (preparation base layer.spec)

/-! ## Laying layers on -/

/-- Lay a prepared layer on a stream: a changed opacity first, then the
overlay. -/
def layOn (current : String) (layer : Layer) (place : Nat) (prepared : String) :
    List Statement × String :=
  let spec := layer.spec
  let output := "ov" ++ toString place
  let window :=
    if spec.isTimed then some (Filter.enableWindow spec.start spec.finish) else none
  let body := Filter.overlay spec.position window
  if spec.opacity < 1 then
    let translucent := layerLabel place "alpha"
    ([.chain .alpha prepared (Filter.alpha spec.opacity) translucent,
      ⟨.overlay, [current, translucent], [output], body⟩], output)
  else ([⟨.overlay, [current, prepared], [output], body⟩], output)

/-- Lay layers on a stream one after the other. -/
def layAllOn (current : String) : List (Layer × Nat × String) → List Statement × String
  | [] => ([], current)
  | (layer, place, prepared) :: rest =>
    let (statements, next) := layOn current layer place prepared
    let (more, last) := layAllOn next rest
    (statements ++ more, last)

/-- Prepare all visual layers and lay them on the base. Without a base video
nothing is laid on. -/
def layersOn (composition : Composition) (sequenced : Bool) (base : Option String) :
    List Statement × Option String :=
  let size := (composition.baseResolution sequenced).getD .fullHD
  let prepared := composition.visualLayers.map fun (layer, place) =>
    (layer, place, composition.prepareLayer size layer place)
  let preparing := prepared.flatMap fun (_, _, statements, _) => statements
  match base with
  | none => (preparing, none)
  | some current =>
    let (laying, last) :=
      layAllOn current (prepared.map fun (layer, place, _, label) => (layer, place, label))
    (preparing ++ laying, some last)

/-! ## Mixing audio -/

/-- Fit an audible layer's audio to its time window: the statements and the
label to mix in. -/
def layerAudio (composition : Composition) (layer : Layer) (place : Nat) :
    List Statement × String :=
  let input := streamLabel .audio (composition.layerIndex place)
  if layer.spec.isTimed then
    let output := layerLabel place "audio"
    ([.chain .audioTiming input (Filter.audioTiming layer.spec.start layer.spec.finish) output],
      output)
  else ([], input)

/-- Mix the base audio with every audible layer. -/
def mixLayers (composition : Composition) (base : Option String) :
    List Statement × Option String :=
  let layers := composition.audibleLayers.map fun (layer, place) =>
    composition.layerAudio layer place
  let (mixing, mixed) := mixStreams (base.toList ++ layers.map (·.2))
  (layers.flatMap (·.1) ++ mixing, mixed)

/-! ## Raw fragments -/

/-- Hand a final stream over: a chain that consumes it takes it on with its
next free output. -/
def handOver (statement : Statement) (kind : MediaKind) (free : List String)
    (label : Option String) : Except BuildFault (List String × Option String) :=
  match label with
  | none => .ok (free, none)
  | some current =>
    if statement.inputs.contains current then
      match free with
      | next :: rest => .ok (rest, some next)
      | [] => .error (.finalStreamLost kind statement)
    else .ok (free, label)

/-- The final streams after a raw chain; video takes the first free output,
audio the next one. -/
def afterChain (streams : Streams) (statement : Statement) : Except BuildFault Streams := do
  let (free, video) ← handOver statement .video statement.outputs streams.video
  let (_, audio) ← handOver statement .audio free streams.audio
  return ⟨video, audio⟩

/-- The statements of all fragments. -/
def fragmentStatements (composition : Composition) : List Statement :=
  composition.fragments.flatMap Fragment.statements

/-! ## The whole route -/

/-- Compile a composition. -/
def compile (composition : Composition) : Except BuildFault Program := do
  composition.check.mapError .unacceptable
  let (graph, base) ← composition.join
  let (layering, video) := composition.layersOn composition.isSequenced base.video
  let (graph, video) :=
    relabel .video composition.output.videoLabel (graph.extend layering) video
  let (mixing, audio) := composition.mixLayers base.audio
  let (graph, audio) :=
    relabel .audio composition.output.audioLabel (graph.extend mixing) audio
  let streams ← composition.fragmentStatements.foldlM afterChain ⟨video, audio⟩
  composition.assemble (graph.extend composition.fragmentStatements) streams
    (composition.baseResolution composition.isSequenced) false

end Montage.Composition
