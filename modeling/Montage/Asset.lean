import Montage.Decimal.Layout
import Montage.Text.Quoted
import Montage.Text.Utf8

/-!
# Assets

An asset is a media file's content together with what is known about its
streams.
-/

namespace Montage

/-- The kind of a stream, and of an asset by its main stream. -/
inductive MediaKind where
  | video
  | audio
deriving DecidableEq, Inhabited

namespace MediaKind

/-- The name of a kind. -/
def name : MediaKind → String
  | video => "video"
  | audio => "audio"

/-- The file extension of a kind when the container is not known. -/
def defaultExtension : MediaKind → String
  | video => "mp4"
  | audio => "wav"

end MediaKind

/-- What is known about an asset's streams. Every field may be unknown. -/
structure AssetMetadata where
  duration : Option Binary64 := none
  width : Option UInt32 := none
  height : Option UInt32 := none
  frameRate : Option Binary64 := none
  sampleRate : Option UInt32 := none
  channels : Option UInt32 := none
  hasAudio : Option Bool := none
  /-- container, which is also the file extension -/
  format : Option String := none
deriving DecidableEq

namespace AssetMetadata

/-- Width and height, when both are known and neither is zero. -/
def dimensions (metadata : AssetMetadata) : Option (UInt32 × UInt32) :=
  match metadata.width, metadata.height with
  | some width, some height =>
    if width ≠ 0 && height ≠ 0 then some (width, height) else none
  | _, _ => none

/-- Fill the gaps of one description from another. -/
def mergedWith (metadata other : AssetMetadata) : AssetMetadata where
  duration := metadata.duration <|> other.duration
  width := metadata.width <|> other.width
  height := metadata.height <|> other.height
  frameRate := metadata.frameRate <|> other.frameRate
  sampleRate := metadata.sampleRate <|> other.sampleRate
  channels := metadata.channels <|> other.channels
  hasAudio := metadata.hasAudio <|> other.hasAudio
  format := metadata.format <|> other.format

end AssetMetadata

/-- A media file's content with its description. -/
structure Asset where
  bytes : Bytes
  kind : MediaKind
  metadata : AssetMetadata := {}
deriving DecidableEq

namespace Asset

/-- Whether there is no content. -/
def isEmpty (asset : Asset) : Bool := asset.bytes.isEmpty

/-- Whether the asset is a video. -/
def isVideo (asset : Asset) : Bool := asset.kind == .video

/-- Whether the asset has an audio stream: an audio asset always, a video
unless its description says otherwise. -/
def hasAudio (asset : Asset) : Bool :=
  match asset.kind with
  | .audio => true
  | .video => asset.metadata.hasAudio.getD true

/-- A text that can be a file extension: one or more ASCII letters or digits. -/
def isExtension (text : String) : Bool :=
  !text.toList.isEmpty && text.toList.all Char.isAlphanum

/-- The file extension under which the asset is staged. -/
def extension (asset : Asset) : String :=
  match asset.metadata.format with
  | some format => if isExtension format then format else asset.kind.defaultExtension
  | none => asset.kind.defaultExtension

end Asset

end Montage
