import Montage.Asset
import Montage.Output
import Montage.Overlay.Spec

/-!
# Compositions

A composition is a main asset with clips before and after it, layers laid over
the sequence, raw filter fragments and output options. It is built step by
step; clips, layers and fragments accumulate in the order of the steps, and
the last output options count.
-/

namespace Montage

/-- An overlay asset and how it is laid over the base. -/
structure Layer where
  asset : Asset
  spec : OverlaySpec
deriving DecidableEq

namespace Layer

/-- Whether the layer is seen. -/
def isVisual (layer : Layer) : Bool := layer.asset.isVideo

/-- Whether the layer is heard: an audio layer always, a video layer if its
audio is to be mixed in and it has any. -/
def isAudible (layer : Layer) : Bool :=
  layer.asset.hasAudio && (!layer.asset.isVideo || layer.spec.mixAudio)

end Layer

/-- A composition request. -/
structure Composition where
  main : Asset
  /-- clips that play before the main asset -/
  prepend : List Asset := []
  /-- clips that play after the main asset -/
  append : List Asset := []
  overlays : List Layer := []
  /-- raw filter text -/
  fragments : List String := []
  output : OutputOptions := {}
deriving DecidableEq

namespace Composition

/-! ## Steps -/

/-- One step of building a composition. -/
inductive Step where
  | prepend (assets : List Asset)
  | append (assets : List Asset)
  | overlay (asset : Asset) (spec : OverlaySpec)
  | fragment (text : String)
  | output (options : OutputOptions)

/-- A composition after one more step. -/
def apply (composition : Composition) : Step → Composition
  | .prepend assets => { composition with prepend := composition.prepend ++ assets }
  | .append assets => { composition with append := composition.append ++ assets }
  | .overlay asset spec =>
    { composition with overlays := composition.overlays ++ [⟨asset, spec⟩] }
  | .fragment text => { composition with fragments := composition.fragments ++ [text] }
  | .output options => { composition with output := options }

/-- The composition that steps build around a main asset. -/
def ofSteps (main : Asset) (steps : List Step) : Composition :=
  steps.foldl apply { main }

/-! ## Inputs -/

/-- The clips that play one after the other. -/
def sequence (composition : Composition) : List Asset :=
  composition.prepend ++ composition.main :: composition.append

/-- All assets in the order of the engine's inputs: the sequence, then the
layers. -/
def inputs (composition : Composition) : List Asset :=
  composition.sequence ++ composition.overlays.map (·.asset)

/-- The engine's index of the main asset. -/
def mainIndex (composition : Composition) : Nat := composition.prepend.length

/-- The engine's index of a layer. -/
def layerIndex (composition : Composition) (layer : Nat) : Nat :=
  composition.sequence.length + layer

/-- Whether more than one clip is played. -/
def isSequenced (composition : Composition) : Bool :=
  !(composition.prepend.isEmpty && composition.append.isEmpty)

end Composition

end Montage
