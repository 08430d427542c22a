import Montage.Program.Compile

/-!
# The single-pass route

A composition with one clip, no raw fragments and only plain layers needs no
preparation of its layers. Each layer gets at most one statement that combines
its size and its opacity, and one that lays it on.
-/

namespace Montage.Composition

/-- A layer without a colour key that is there all the time. -/
def isPlain (layer : Layer) : Bool :=
  layer.spec.colorKey.isNone && layer.spec.start.isZero && layer.spec.duration.isNone

/-- Whether a composition can take the single-pass route. -/
def isSimple (composition : Composition) : Bool :=
  composition.prepend.isEmpty && composition.append.isEmpty &&
    composition.fragments.isEmpty && composition.overlays.all isPlain

/-- Lay a plain layer on a stream. -/
def layPlainOn (composition : Composition) (base : Resolution) (current : String)
    (layer : Layer) (place : Nat) : List Statement × String :=
  let spec := layer.spec
  let input := streamLabel .video (composition.layerIndex place)
  let isTranslucent := decide (spec.opacity < 1)
  let steps :=
    (if spec.width.isSome || spec.height.isSome then [scaleBody base spec] else []) ++
    (if isTranslucent then [Filter.alpha spec.opacity] else [])
  let output := "dv" ++ toString place
  let body := Filter.overlay spec.position none
  if steps.isEmpty then ([⟨.overlay, [current, input], [output], body⟩], output)
  else
    let label := "layer" ++ toString place
    ([.chain (if isTranslucent then .alpha else .scale) input (",".intercalate steps) label,
      ⟨.overlay, [current, label], [output], body⟩], output)

/-- Lay plain layers on a stream one after the other. -/
def layAllPlainOn (composition : Composition) (base : Resolution) (current : String) :
    List (Layer × Nat) → List Statement × String
  | [] => ([], current)
  | (layer, place) :: rest =>
    let (statements, next) := composition.layPlainOn base current layer place
    let (more, last) := composition.layAllPlainOn base next rest
    (statements ++ more, last)

/-- Lay all visual layers on the base, if there is one. -/
def plainLayersOn (composition : Composition) (base : Option String) :
    List Statement × Option String :=
  match base, composition.baseResolution false with
  | some current, some size =>
    let (statements, last) :=
      composition.layAllPlainOn size current composition.visualLayers
    (statements, some last)
  | base, _ => ([], base)

/-- Mix the base audio with every audible layer as it is. -/
def mixPlainLayers (composition : Composition) (base : Option String) :
    List Statement × Option String :=
  mixStreams (base.toList ++ composition.audibleLayers.map fun (_, place) =>
    streamLabel .audio (composition.layerIndex place))

/-- Build the single-pass program of a simple composition. -/
def singlePass (composition : Composition) : Except BuildFault Program := do
  composition.check.mapError .unacceptable
  if !composition.isSimple then throw .notSimple
  let base := composition.mainStreams
  let (layering, video) := composition.plainLayersOn base.video
  let (graph, video) :=
    relabel .video composition.output.videoLabel ⟨layering⟩ video
  let (mixing, audio) := composition.mixPlainLayers base.audio
  let (graph, audio) :=
    relabel .audio composition.output.audioLabel (graph.extend mixing) audio
  composition.assemble graph ⟨video, audio⟩ (composition.baseResolution false) true

end Montage.Composition
