import Montage.Json.Value
import Montage.Manifest

/-!
# Writing manifests

The JSON form of the parts of a manifest. Fields that are not set are left
out; dimensions and colours are written as their texts.
-/

namespace Montage

open Json (member?)

/-- The JSON form of a description of streams. -/
def AssetMetadata.toJson (metadata : AssetMetadata) : Json :=
  .object <|
    member? "duration_secs" .real metadata.duration ++
    member? "width" .word metadata.width ++
    member? "height" .word metadata.height ++
    member? "frame_rate" .real metadata.frameRate ++
    member? "sample_rate" .word metadata.sampleRate ++
    member? "channels" .word metadata.channels ++
    member? "has_audio" .boolean metadata.hasAudio ++
    member? "format" .string metadata.format

/-- The JSON form of a frame size. -/
def Resolution.toJson (resolution : Resolution) : Json :=
  .object [("width", .word resolution.width), ("height", .word resolution.height)]

/-- The JSON form of output options. -/
def OutputOptions.toJson (options : OutputOptions) : Json :=
  .object <|
    member? "video_label" .string options.videoLabel ++
    member? "audio_label" .string options.audioLabel ++
    [("format", .string options.format)] ++
    member? "video_codec" .string options.videoCodec ++
    member? "audio_codec" .string options.audioCodec ++
    member? "bitrate" .string options.bitrate ++
    member? "resolution" Resolution.toJson options.resolution ++
    member? "fps" .real options.fps

/-- The members of the JSON form of an overlay specification. -/
def OverlaySpec.members (spec : OverlaySpec) : List (String × Json) :=
  [("position", .string spec.position.name)] ++
  member? "width" (fun d : Dimension => .string d.text) spec.width ++
  member? "height" (fun d : Dimension => .string d.text) spec.height ++
  [("opacity", .real spec.opacity), ("start_time_secs", .real spec.start)] ++
  member? "duration_secs" .real spec.duration ++
  member? "color_key" (fun c : Color => .string c.manifestText) spec.colorKey ++
  member? "color_key_similarity" .real spec.similarity ++
  member? "color_key_blend" .real spec.blend ++
  [("mix_audio", .boolean spec.mixAudio)]

/-- The JSON form of an overlay specification. -/
def OverlaySpec.toJson (spec : OverlaySpec) : Json := .object spec.members

/-- The JSON form of an asset source. -/
def AssetSource.toJson (source : AssetSource) : Json :=
  .object [("path", .string source.path), ("kind", .string source.kind.name),
    ("metadata", source.metadata.toJson)]

/-- The JSON form of an overlay: its asset and its specification side by
side. -/
def OverlayEntry.toJson (entry : OverlayEntry) : Json :=
  .object (("asset", entry.asset.toJson) :: entry.spec.members)

/-- The JSON form of a manifest. -/
def Manifest.toJson (manifest : Manifest) : Json :=
  .object [
    ("main", manifest.main.toJson),
    ("prepend", .array (manifest.prepend.map AssetSource.toJson)),
    ("append", .array (manifest.append.map AssetSource.toJson)),
    ("overlays", .array (manifest.overlays.map OverlayEntry.toJson)),
    ("custom_filters", .array (manifest.customFilters.map .string)),
    ("output", manifest.output.toJson)]

end Montage
