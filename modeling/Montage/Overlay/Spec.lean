import Montage.Overlay.Color
import Montage.Overlay.Dimension
import Montage.Overlay.Position

/-!
# Overlay specifications

How an overlay is laid over the base: where, how large, how opaque, for which
time window, with which colour keyed out, and whether it is heard.
-/

namespace Montage

/-- How an overlay is laid over the base stream. -/
structure OverlaySpec where
  position : Position := .topLeft
  /-- target width; without one the source's own, or one that keeps the ratio -/
  width : Option Dimension := none
  /-- target height -/
  height : Option Dimension := none
  /-- from 0, invisible, to 1, fully opaque -/
  opacity : Binary64 := 1
  /-- seconds into the base stream at which the overlay appears -/
  start : Binary64 := 0
  /-- seconds for which it stays; without a value it stays to the end -/
  duration : Option Binary64 := none
  /-- the colour to make transparent -/
  colorKey : Option Color := none
  similarity : Option Binary64 := none
  blend : Option Binary64 := none
  /-- whether the overlay's own audio is mixed into the output -/
  mixAudio : Bool := false
deriving DecidableEq

namespace OverlaySpec

/-- The similarity that a colour is keyed out with. -/
def effectiveSimilarity (spec : OverlaySpec) : Binary64 := spec.similarity.getD 0.3

/-- The blend that a colour is keyed out with. -/
def effectiveBlend (spec : OverlaySpec) : Binary64 := spec.blend.getD 0.1

/-- Whether the overlay is only there for a time window. -/
def isTimed (spec : OverlaySpec) : Bool := decide (0 < spec.start) || spec.duration.isSome

/-- The end of the time window, if it has one. -/
def finish (spec : OverlaySpec) : Option Binary64 := spec.duration.map (spec.start + ·)

end OverlaySpec

end Montage
