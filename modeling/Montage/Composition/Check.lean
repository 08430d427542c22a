import Montage.Composition
import Montage.Text.Quoted

/-!
# Checking compositions

Everything that makes a composition unacceptable can be found out without
touching a file. The violations are listed in a fixed order and the first one
is reported.
-/

namespace Montage

/-- The ends at which clips are added. -/
inductive ClipPlace where
  | prepend
  | append
deriving DecidableEq

/-- What makes a composition unacceptable. -/
inductive Violation where
  | noMainAsset
  | emptyClip (place : ClipPlace) (index : Nat)
  | mixedKinds (place : ClipPlace) (index : Nat) (kind mainKind : MediaKind)
  | emptyOverlay (index : Nat)
  | videoOverAudio (index : Nat)
  | opacity (index : Nat) (value : Binary64)
  | startTime (index : Nat) (value : Binary64)
  | duration (index : Nat) (value : Binary64)
  | similarity (index : Nat) (value : Binary64)
  | blend (index : Nat) (value : Binary64)
  | width (index : Nat) (value : Dimension)
  | height (index : Nat) (value : Dimension)
  | emptyFragment
  | label (kind : MediaKind) (text : String)
  | equalLabels (text : String)
  | format (text : String)
  | resolution (size : Resolution)
  | fps (value : Binary64)
deriving DecidableEq

/-- The name of an end. -/
def ClipPlace.name : ClipPlace → String
  | prepend => "prepend"
  | append => "append"

namespace Violation

private def overlay (index : Nat) : String := "overlay " ++ toString index ++ " "

/-- How a violation is worded. -/
def message : Violation → String
  | noMainAsset => "composition has no main asset"
  | emptyClip place index => place.name ++ " asset " ++ toString index ++ " is empty"
  | mixedKinds place index kind mainKind =>
    place.name ++ " asset " ++ toString index ++ " is " ++ kind.name ++
      " but the main asset is " ++ mainKind.name
  | emptyOverlay index => overlay index ++ "asset is empty"
  | videoOverAudio index => overlay index ++ "is a video but the main asset is audio"
  | opacity index value => overlay index ++ "opacity " ++ value.plainText ++ " is outside [0, 1]"
  | startTime index value =>
    overlay index ++ "start time " ++ value.plainText ++ " must be >= 0"
  | duration index value => overlay index ++ "duration " ++ value.plainText ++ " must be > 0"
  | similarity index value =>
    overlay index ++ "color key similarity " ++ value.plainText ++ " is outside [0, 1]"
  | blend index value =>
    overlay index ++ "color key blend " ++ value.plainText ++ " is outside [0, 1]"
  | width index value => overlay index ++ "width " ++ value.text ++ " is not positive"
  | height index value => overlay index ++ "height " ++ value.text ++ " is not positive"
  | emptyFragment => "custom filter fragment is empty"
  | label kind text =>
    "output " ++ kind.name ++ " label " ++ Text.quoted text ++ " is not a valid link label"
  | equalLabels text => "output video and audio labels are both " ++ Text.quoted text
  | format text => "output format " ++ Text.quoted text ++ " is not a file extension"
  | resolution size => "output resolution " ++ size.text ++ " has a zero axis"
  | fps value => "output fps " ++ value.plainText ++ " must be > 0"

end Violation

/-! ## Finding violations -/

/-- A condition that must hold. -/
def require (holds : Bool) (violation : Violation) : List Violation :=
  if holds then [] else [violation]

/-- A value that must meet a condition if it is given. -/
def given {α : Type} (value : Option α) (holds : α → Bool) (violation : α → Violation) :
    List Violation :=
  match value with
  | some value => require (holds value) (violation value)
  | none => []

/-- A number from 0 to 1. -/
def isFraction (x : Binary64) : Bool := decide (0 ≤ x) && decide (x ≤ 1)

/-- A plain identifier that no filter text reads as anything else: ASCII
letters, digits, underscores, hyphens and dots. -/
def isLinkLabel (label : String) : Bool :=
  !label.toList.isEmpty &&
    label.toList.all fun c => c.isAlphanum || c = '_' || c = '-' || c = '.'

/-- Violations of the clips added at one end. -/
def clipViolations (mainKind : MediaKind) (place : ClipPlace) (clips : List Asset) :
    List Violation :=
  clips.zipIdx.flatMap fun (clip, index) =>
    require (!clip.isEmpty) (.emptyClip place index) ++
    require (clip.kind == mainKind) (.mixedKinds place index clip.kind mainKind)

/-- Violations of one layer. -/
def layerViolations (mainIsVideo : Bool) (layer : Layer) (index : Nat) : List Violation :=
  let spec := layer.spec
  require (!layer.asset.isEmpty) (.emptyOverlay index) ++
  require (!layer.isVisual || mainIsVideo) (.videoOverAudio index) ++
  require (isFraction spec.opacity) (.opacity index spec.opacity) ++
  require (spec.start.isFinite && decide (0 ≤ spec.start)) (.startTime index spec.start) ++
  given spec.duration Binary64.isFinitePositive (.duration index) ++
  given spec.similarity isFraction (.similarity index) ++
  given spec.blend isFraction (.blend index) ++
  given spec.width Dimension.isPositive (.width index) ++
  given spec.height Dimension.isPositive (.height index)

/-- Violations of output options. -/
def outputViolations (output : OutputOptions) : List Violation :=
  given output.videoLabel isLinkLabel (.label .video) ++
  given output.audioLabel isLinkLabel (.label .audio) ++
  given output.videoLabel (fun label => output.audioLabel != some label) .equalLabels ++
  require (Asset.isExtension output.format) (.format output.format) ++
  given output.resolution (fun size => size.width != 0 && size.height != 0) .resolution ++
  given output.fps Binary64.isFinitePositive .fps

namespace Composition

/-- All violations, in the order in which they are looked for. -/
def violations (composition : Composition) : List Violation :=
  let mainKind := composition.main.kind
  require (!composition.main.isEmpty) .noMainAsset ++
  clipViolations mainKind .prepend composition.prepend ++
  clipViolations mainKind .append composition.append ++
  composition.overlays.zipIdx.flatMap (fun (layer, index) =>
    layerViolations composition.main.isVideo layer index) ++
  require (!composition.fragments.any Text.isBlankText) .emptyFragment ++
  outputViolations composition.output

/-- Accept a composition or report its first violation. -/
def check (composition : Composition) : Except Violation Unit :=
  match composition.violations with
  | [] => .ok ()
  | violation :: _ => .error violation

end Composition

end Montage
