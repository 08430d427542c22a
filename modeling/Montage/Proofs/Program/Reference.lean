import Montage.Program.Compile
import Montage.Proofs.Graph.Signal

/-!
# The composition as signals

What the final streams of a composition are meant to be, said of the
composition itself: no statement and no link label occurs, only streams of
inputs and filters over signals. The clips are joined, the visual layers are
laid on one after the other, and the audio is mixed.
-/

namespace Montage.Composition

/-- A stream of an input as it is. -/
def inputSignal (kind : MediaKind) (index : Nat) : MediaSignal := .input (streamLabel kind index)

/-! ## The base -/

/-- A clip's video in the common format. -/
def clipVideoSignal (composition : Composition) (index : Nat) : MediaSignal :=
  .chain .normalize
    (Filter.normalizeVideo ((composition.baseResolution true).getD .fullHD)
      composition.sequenceFps)
    (inputSignal .video index)

/-- A clip's audio in the common format, or silence for the length of a clip
without audio. -/
def clipAudioSignal (composition : Composition) (clip : Asset) (index : Nat) : MediaSignal :=
  if clip.hasAudio then
    .chain .normalizeAudio (Filter.normalizeAudio composition.sequenceRate)
      (inputSignal .audio index)
  else
    .output .silentAudio
      (Filter.silentAudio composition.sequenceRate (clip.metadata.duration.getD 0)) [] 1 0

/-- What a clip adds to the joined clips. -/
def clipSignals (composition : Composition) (clip : Asset) (index : Nat) : List MediaSignal :=
  (if composition.main.isVideo then [composition.clipVideoSignal index] else []) ++
  (if composition.anyClipHasAudio then [composition.clipAudioSignal clip index] else [])

/-- An output of the joined clips. -/
def joinedSignal (composition : Composition) (pad : Nat) : MediaSignal :=
  .output .concat
    (Filter.concat composition.sequence.length composition.main.isVideo
      composition.anyClipHasAudio)
    (composition.sequence.zipIdx.flatMap fun (clip, index) =>
      composition.clipSignals clip index)
    (composition.main.isVideo.toNat + composition.anyClipHasAudio.toNat) pad

/-- The video that layers are laid on: the main asset's own, or that of the
joined clips. -/
def baseVideoSignal (composition : Composition) : Option MediaSignal :=
  if composition.main.isVideo then
    some (if composition.sequence.length = 1 then inputSignal .video 0
      else composition.joinedSignal 0)
  else none

/-- The audio that layers are mixed with. In the joined clips it comes after
the video, if there is one. -/
def baseAudioSignal (composition : Composition) : Option MediaSignal :=
  if composition.anyClipHasAudio then
    some (if composition.sequence.length = 1 then inputSignal .audio 0
      else composition.joinedSignal composition.main.isVideo.toNat)
  else none

/-! ## Layers -/

/-- A signal through a filter that is only there on a condition. -/
def filteredIf (needed : Bool) (kind : FilterKind) (body : String) (signal : MediaSignal) :
    MediaSignal :=
  if needed then .chain kind body signal else signal

/-- A layer with its lead-in, its colour key and its size. -/
def preparedSignal (base : Resolution) (spec : OverlaySpec) (signal : MediaSignal) : MediaSignal :=
  let delayed := filteredIf (decide (0 < spec.start)) .timePad (Filter.timePad spec.start) signal
  let keyed := match spec.colorKey with
    | some color => .chain .colorKey
      (Filter.colorKey color spec.effectiveSimilarity spec.effectiveBlend) delayed
    | none => delayed
  filteredIf (spec.width.isSome || spec.height.isSome) .scale
    (Filter.scale (spec.width.map (·.resolve base.width)) (spec.height.map (·.resolve base.height)))
    keyed

/-- A signal with an opacity below one applied. -/
def translucentSignal (spec : OverlaySpec) (signal : MediaSignal) : MediaSignal :=
  filteredIf (decide (spec.opacity < 1)) .alpha (Filter.alpha spec.opacity) signal

/-- The time window of a layer that is not there all the time. -/
def layerWindow (spec : OverlaySpec) : Option String :=
  if spec.isTimed then some (Filter.enableWindow spec.start spec.finish) else none

/-- One video laid over another. -/
def overlaidSignal (spec : OverlaySpec) (current layer : MediaSignal) : MediaSignal :=
  .output .overlay (Filter.overlay spec.position (layerWindow spec)) [current, layer] 1 0

/-- A visual layer as it is laid on. -/
def layerSignal (composition : Composition) (base : Resolution) (layer : Layer) (place : Nat) :
    MediaSignal :=
  translucentSignal layer.spec
    (preparedSignal base layer.spec
      (inputSignal .video (composition.sequence.length + place)))

/-- The final video: the visual layers laid on the base in their order. -/
def videoSignal (composition : Composition) : Option MediaSignal :=
  let base := (composition.baseResolution (1 < composition.sequence.length)).getD .fullHD
  composition.baseVideoSignal.map fun video =>
    (composition.overlays.zipIdx.filter (·.1.isVisual)).foldl
      (fun current (layer, place) =>
        overlaidSignal layer.spec current (composition.layerSignal base layer place))
      video

/-! ## Audio -/

/-- An audible layer's audio in its time window. -/
def layerAudioSignal (composition : Composition) (layer : Layer) (place : Nat) : MediaSignal :=
  filteredIf layer.spec.isTimed .audioTiming
    (Filter.audioTiming layer.spec.start layer.spec.finish)
    (inputSignal .audio (composition.sequence.length + place))

/-- Several signals mixed, unless there is but one. -/
def mixedSignal : List MediaSignal → Option MediaSignal
  | [] => none
  | [signal] => some signal
  | signals => some (.output .mix (Filter.mix signals.length) signals 1 0)

/-- The final audio: the base audio mixed with that of the audible layers in
their order. -/
def audioSignal (composition : Composition) : Option MediaSignal :=
  mixedSignal (composition.baseAudioSignal.toList ++
    (composition.overlays.zipIdx.filter (·.1.isAudible)).map fun (layer, place) =>
      composition.layerAudioSignal layer place)

end Montage.Composition
