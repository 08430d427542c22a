import Montage.Manifest.Write

/-!
# The schema of manifests

A JSON schema for those who write manifests by hand or by program. Every record
type has a definition; properties and definitions stand in alphabetical order.
-/

namespace Montage.Schema

/-! ## Building blocks -/

/-- The members of a schema. -/
abbrev Members := List (String × Json)

/-- What a value is for. -/
def described (text : String) : Members := [("description", .string text)]

/-- The value that stands for a missing one. -/
def withDefault (value : Json) : Members := [("default", value)]

/-- A value of a type. -/
def ofType (name : String) : Members := [("type", .string name)]

/-- A value of a type, or nothing. -/
def orNothing (name : String) : Members := [("type", .array [.string name, .string "null"])]

/-- The format of numbers of double precision. -/
def double : Members := [("format", .string "double")]

/-- The format and the bound of whole numbers of 32 bits. -/
def word : Members := [("format", .string "uint32"), ("minimum", .real 0)]

/-- A list. -/
def listOf (items : Members) : Members := ofType "array" ++ [("items", .object items)]

/-- A value of a defined type. -/
def reference (name : String) : Members := [("$ref", .string ("#/definitions/" ++ name))]

/-- A value of a defined type with more said about it. -/
def restricted (name : String) : Members := [("allOf", .array [.object (reference name)])]

/-- A record with its required fields and all its properties. -/
def record (required : List String) (properties : List (String × Members)) : Members :=
  ofType "object" ++
    (if required.isEmpty then [] else [("required", .array (required.map .string))]) ++
    [("properties", .object (properties.map fun (name, members) => (name, .object members)))]

/-- One of some names. -/
def names (all : List String) : Members :=
  ofType "string" ++ [("enum", .array (all.map .string))]

/-! ## Definitions -/

/-- Kinds of assets. -/
def mediaKind : Members :=
  described "Kind of media carried by an asset." ++
    names [MediaKind.video.name, MediaKind.audio.name]

/-- Descriptions of streams. -/
def metadata : Members :=
  described ("Descriptive stream metadata. Every field is optional; the compiler falls " ++
    "back to engine defaults for anything missing.") ++
  record [] [
    ("channels", described "Audio channel count" ++ orNothing "integer" ++ word),
    ("duration_secs", described "Duration in seconds" ++ orNothing "number" ++ double),
    ("format", described "Container format / file extension (e.g. \"mp4\", \"png\", \"wav\")" ++
      orNothing "string"),
    ("frame_rate", described "Frame rate (fps)" ++ orNothing "number" ++ double),
    ("has_audio", described "Whether the asset carries an audio track" ++ orNothing "boolean"),
    ("height", described "Height in pixels" ++ orNothing "integer" ++ word),
    ("sample_rate", described "Audio sample rate in Hz" ++ orNothing "integer" ++ word),
    ("width", described "Width in pixels" ++ orNothing "integer" ++ word)]

/-- Asset sources. -/
def source : Members :=
  described "An asset stored on disk." ++
  record ["path"] [
    ("kind", withDefault (.string (default : MediaKind).name) ++ restricted "AssetKind"),
    ("metadata",
      described "Known metadata; missing fields may be filled by probing the file" ++
        withDefault (AssetMetadata.toJson {}) ++ restricted "AssetMetadata"),
    ("path",
      described "File path, relative paths resolve against the manifest's directory" ++
        ofType "string")]

/-- Output options. -/
def outputOptions : Members :=
  described "Output stream labels and encoder flags." ++
  record [] [
    ("audio_codec", described "Audio codec (e.g., \"aac\")" ++ orNothing "string"),
    ("audio_label", described "Label for the final audio stream inside the filter graph" ++
      orNothing "string"),
    ("bitrate", described "Video bitrate (e.g., \"4M\")" ++ orNothing "string"),
    ("format", described "Output container / file extension" ++
      withDefault (.string ({} : OutputOptions).format) ++ ofType "string"),
    ("fps", described "Output frame rate" ++ orNothing "number" ++ double),
    ("resolution", described "Output frame size" ++
      [("anyOf", .array [.object (reference "Resolution"), .object (ofType "null")])]),
    ("video_codec", described "Video codec (e.g., \"libx264\")" ++ orNothing "string"),
    ("video_label", described "Label for the final video stream inside the filter graph" ++
      orNothing "string")]

/-- Overlays: an asset and the fields of a specification side by side. -/
def overlayEntry : Members :=
  let spec : OverlaySpec := {}
  described "An overlay asset plus how to lay it over the base." ++
  record ["asset"] [
    ("asset", reference "AssetSource"),
    ("color_key", described "Color to key out (\"#00FF00\")" ++ orNothing "string"),
    ("color_key_blend", described "Chroma-key blend (0.0 to 1.0)" ++ orNothing "number" ++ double),
    ("color_key_similarity", described "Chroma-key similarity (0.0 to 1.0)" ++
      orNothing "number" ++ double),
    ("duration_secs",
      described "How long the overlay stays visible; omitted means until the end" ++
        orNothing "number" ++ double),
    ("height", described "Target height (\"270\" or \"25%\"); omitted keeps the source size" ++
      orNothing "string"),
    ("mix_audio", described "Mix the overlay's own audio track into the output" ++
      withDefault (.boolean spec.mixAudio) ++ ofType "boolean"),
    ("opacity", described "Opacity (0.0 to 1.0)" ++ withDefault (.real spec.opacity) ++
      ofType "number" ++ double),
    ("position", described "Anchor inside the base frame" ++
      withDefault (.string spec.position.name) ++ restricted "Position"),
    ("start_time_secs",
      described "Seconds into the base stream at which the overlay appears" ++
        withDefault (.real spec.start) ++ ofType "number" ++ double),
    ("width", described "Target width (\"480\" or \"25%\"); omitted keeps the source size" ++
      orNothing "string")]

/-- Anchors. -/
def position : Members :=
  described "Anchor of an overlay inside the base frame." ++
    names (Position.all.map Position.name)

/-- Frame sizes. -/
def resolution : Members :=
  described "Frame size in pixels." ++
  record ["height", "width"] [
    ("height", ofType "integer" ++ word),
    ("width", ofType "integer" ++ word)]

/-- The definitions by name. -/
def definitions : List (String × Members) := [
  ("AssetKind", mediaKind),
  ("AssetMetadata", metadata),
  ("AssetSource", source),
  ("OutputOptions", outputOptions),
  ("OverlayEntry", overlayEntry),
  ("Position", position),
  ("Resolution", resolution)]

/-! ## The whole -/

/-- Where the schema language is defined: draft 7, over plain HTTP. -/
def dialect : String := "http:" ++ "//json-schema.org/draft-07/schema#"

/-- The schema of manifests. -/
def manifest : Json :=
  .object (
    [("$schema", .string dialect),
      ("title", .string "CompositionManifest")] ++
    described "A complete composition described by file paths." ++
    record ["main"] [
      ("append", withDefault (.array []) ++ listOf (reference "AssetSource")),
      ("custom_filters",
        described "Raw filter-graph fragments appended after the generated graph" ++
          withDefault (.array []) ++ listOf (ofType "string")),
      ("main", reference "AssetSource"),
      ("output", withDefault (OutputOptions.toJson {}) ++ restricted "OutputOptions"),
      ("overlays", withDefault (.array []) ++ listOf (reference "OverlayEntry")),
      ("prepend", withDefault (.array []) ++ listOf (reference "AssetSource"))] ++
    [("definitions", .object (definitions.map fun (name, members) =>
      (name, .object members)))])

end Montage.Schema
