import Montage.Output
import Montage.Overlay.Spec

/-!
# Filters

The bodies of the filters that a graph is made of: the text between the input
and the output labels of a statement.
-/

namespace Montage.Filter

/-- The least similarity that the key filter takes. -/
def minSimilarity : Binary64 := 0.00001

/-- A number in a filter body. -/
def number (x : Binary64) : String := x.unsignedZeroText

/-- Fit a video into a frame, keeping its ratio and padding the rest, with a
common pixel ratio, frame rate and pixel format. -/
def normalizeVideo (target : Resolution) (fps : Binary64) : String :=
  let size := toString target.width.toNat ++ ":" ++ toString target.height.toNat
  "scale=" ++ size ++ ":force_original_aspect_ratio=decrease,pad=" ++ size ++
    ":(ow-iw)/2:(oh-ih)/2,setsar=1,fps=" ++ number fps ++ ",format=yuv420p"

/-- The common sample format and channel layout. -/
def audioFormat : String := "aformat=sample_fmts=fltp:channel_layouts=stereo"

/-- Bring an audio stream to a common sample rate and format. -/
def normalizeAudio (sampleRate : UInt32) : String :=
  "aresample=" ++ toString sampleRate.toNat ++ "," ++ audioFormat

/-- Silence of a given duration in the common format. -/
def silentAudio (sampleRate : UInt32) (duration : Binary64) : String :=
  "anullsrc=channel_layout=stereo:sample_rate=" ++ toString sampleRate.toNat ++
    ",atrim=duration=" ++ number duration ++ "," ++ audioFormat

/-- Play segments one after the other. -/
def concat (segments : Nat) (video audio : Bool) : String :=
  "concat=n=" ++ toString segments ++ ":v=" ++ toString video.toNat ++
    ":a=" ++ toString audio.toNat

/-- Put a transparent lead-in before a video. -/
def timePad (seconds : Binary64) : String :=
  "format=rgba,tpad=start_duration=" ++ number seconds ++
    ":start_mode=add:color=black@0.0,setpts=PTS-STARTPTS"

/-- Make a colour transparent. -/
def colorKey (color : Color) (similarity blend : Binary64) : String :=
  "format=rgba,chromakey=color=" ++ color.filterText ++
    ":similarity=" ++ number (similarity.larger minSimilarity) ++ ":blend=" ++ number blend

/-- One axis of a scaled frame; an open one follows the other. -/
def axis : Option UInt32 → String
  | some extent => toString extent.toNat
  | none => "-1"

/-- Scale a video. -/
def scale (width height : Option UInt32) : String := "scale=" ++ axis width ++ ":" ++ axis height

/-- Multiply the opacity of a video. -/
def alpha (opacity : Binary64) : String :=
  "format=rgba,colorchannelmixer=aa=" ++ number opacity

/-- The coordinates of an overlay as expressions in the sizes of the base, `W`
and `H`, and of the overlay, `w` and `h`. -/
def coordinates : Position → String × String
  | .topLeft => ("0", "0")
  | .topRight => ("W-w", "0")
  | .bottomLeft => ("0", "H-h")
  | .bottomRight => ("W-w", "H-h")
  | .center => ("(W-w)/2", "(H-h)/2")

/-- The coordinates of an overlay of known size on a base of known size;
halves are cut toward zero. -/
def resolveCoordinates (position : Position) (base overlay : Resolution) : Int × Int :=
  let dx : Int := base.width.toNat - overlay.width.toNat
  let dy : Int := base.height.toNat - overlay.height.toNat
  match position with
  | .topLeft => (0, 0)
  | .topRight => (dx, 0)
  | .bottomLeft => (0, dy)
  | .bottomRight => (dx, dy)
  | .center => (dx.tdiv 2, dy.tdiv 2)

/-- The condition under which an overlay is there. -/
def enableWindow (start : Binary64) : Option Binary64 → String
  | some finish => "between(t," ++ number start ++ "," ++ number finish ++ ")"
  | none => "gte(t," ++ number start ++ ")"

/-- Lay one video over another. -/
def overlay (position : Position) (window : Option String) : String :=
  let (x, y) := coordinates position
  "overlay=x=" ++ x ++ ":y=" ++ y ++ ":format=auto" ++
    match window with
    | some window => ":enable='" ++ window ++ "'"
    | none => ""

/-- Delay an audio stream to the start of a time window, and cut it at its
end. -/
def audioTiming (start : Binary64) (finish : Option Binary64) : String :=
  let delay :=
    if 0 < start then ["adelay=delays=" ++ number (start * 1000) ++ ":all=1"] else []
  let trim := (finish.map fun finish => "atrim=end=" ++ number finish).toList
  ",".intercalate (delay ++ trim)

/-- Mix audio streams at their own levels. -/
def mix (inputs : Nat) : String :=
  "amix=inputs=" ++ toString inputs ++ ":duration=longest:dropout_transition=0:normalize=0"

end Montage.Filter
