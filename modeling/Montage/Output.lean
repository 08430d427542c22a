import Montage.Decimal.Layout
import Montage.Decimal.Reading
import Montage.Spelling
import Montage.Text.Blank

/-!
# Output options

The frame size, the stream labels, the container and the encoder settings that
are asked of the result.
-/

namespace Montage

/-- A frame size in pixels. -/
structure Resolution where
  width : UInt32
  height : UInt32
deriving DecidableEq

namespace Resolution

/-- The size assumed when none is known. -/
def fullHD : Resolution := ⟨1920, 1080⟩

/-- The text of a size: `1920x1080`. -/
def text (resolution : Resolution) : String :=
  toString resolution.width.toNat ++ "x" ++ toString resolution.height.toNat

/-- A character that separates the axes. -/
def isSeparator (c : Char) : Bool := c = 'x' || c = 'X' || c = ':'

/-- One axis, with blanks around it. -/
def axis? (cs : List Char) : Option UInt32 :=
  Decimal.word? (String.ofList (Text.trimChars cs))

/-- Width and height around the first separator. -/
def ofText (text : String) : Except SpellingError Resolution :=
  let cs := text.toList
  let width := cs.takeWhile (!isSeparator ·)
  match cs.dropWhile (!isSeparator ·) with
  | [] => .error (.resolution text)
  | _ :: height =>
    match axis? width, axis? height with
    | some width, some height => .ok ⟨width, height⟩
    | _, _ => .error (.resolution text)

end Resolution

/-- What is asked of the output. -/
structure OutputOptions where
  /-- label of the final video stream inside the filter graph -/
  videoLabel : Option String := none
  /-- label of the final audio stream inside the filter graph -/
  audioLabel : Option String := none
  /-- container, which is also the file extension -/
  format : String := "mp4"
  videoCodec : Option String := none
  audioCodec : Option String := none
  bitrate : Option String := none
  resolution : Option Resolution := none
  fps : Option Binary64 := none
deriving DecidableEq

namespace OutputOptions

/-- A flag with its value, or nothing. -/
def flag (name : String) : Option String → List String
  | some value => [name, value]
  | none => []

/-- Encoder arguments: the video settings if the output has a video stream,
the audio settings if it has an audio stream. -/
def encoderArgs (options : OutputOptions) (hasVideo hasAudio : Bool) : List String :=
  (if hasVideo then
    flag "-c:v" options.videoCodec ++ flag "-b:v" options.bitrate ++
      flag "-s" (options.resolution.map Resolution.text) ++
      flag "-r" (options.fps.map Binary64.plainText)
  else []) ++
  (if hasAudio then flag "-c:a" options.audioCodec else [])

end OutputOptions

end Montage
